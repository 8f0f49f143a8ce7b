import VgiPprof.Core.Targets
import VgiPprof.Data.Simulation
import VgiPprof.Worker.Producers

namespace VgiPprof.Worker

open Arrow VgiPprof.Core Data

/-! The native worker and the one for the browser: the same code, where `usize` has
64 bits and where it has 32. -/

/-- No string index means another string when it is cut to 32 bits. -/
def Narrow (d : Decoded) : Prop :=
  ∀ idx ∈ d.profile.stringIndices, Unaliased d.profile.stringTable idx

def NarrowUnits (units : List DecodeUnit) : Prop :=
  ∀ unit ∈ units, ∀ d, unit.result = .ok d → Narrow d

section Build

variable {ρ : Type} {rows rows' : Decoded → List ρ}

theorem gather_congr (columns : List (Column ρ)) {units : List DecodeUnit}
    (agree : ∀ unit ∈ units, ∀ d, unit.result = .ok d → rows d = rows' d) :
    gather rows columns units = gather rows' columns units := by
  refine List.foldl_ext _ _ _ fun vectors unit member => ?_
  rw [pushUnit, pushUnit]
  cases result : unit.result with
  | error msg => rfl
  | ok d => simp only [agree unit member d result]

theorem buildTable_congr (columns : List (Column ρ)) {units : List DecodeUnit}
    (agree : ∀ unit ∈ units, ∀ d, unit.result = .ok d → rows d = rows' d)
    (schema : Schema) :
    buildTable rows columns units schema = buildTable rows' columns units schema := by
  rw [buildTable, buildTable, gather_congr columns agree]

end Build

theorem build_narrow (table : TableFunction) {units : List DecodeUnit}
    (narrow : NarrowUnits units) (schema : Schema) :
    table.build .native units schema = table.build .wasm32 units schema := by
  have agree : ∀ unit ∈ units, ∀ d, unit.result = .ok d →
      ∀ idx ∈ d.profile.stringIndices, Decoded.str .native d idx = Decoded.str .wasm32 d idx :=
    fun unit member d result idx isIndex =>
      Decoded.str_native_eq_wasm32 (narrow unit member d result idx isIndex)
  cases table with
  | stacksTable =>
      exact buildTable_congr _ (fun unit member d result =>
        Decoded.stacks_congr (agree unit member d result)) schema
  | samplesTable =>
      exact buildTable_congr _ (fun unit member d result =>
        Decoded.samples_congr (agree unit member d result)) schema
  | functionsTable =>
      exact buildTable_congr _ (fun unit member d result =>
        Decoded.functions_congr (agree unit member d result)) schema
  | locationsTable => rfl
  | mappingsTable =>
      exact buildTable_congr _ (fun unit member d result =>
        Decoded.mappings_congr (agree unit member d result)) schema
  | metaTable =>
      exact buildTable_congr _ (fun unit member d result =>
        congrArg List.singleton (Decoded.metaRow_congr (agree unit member d result))) schema

/-- Producers of the two workers that will deliver the same batch, or have. -/
structure SameProducer (producer producer' : OneShot) : Prop where
  units : producer.units = producer'.units
  build : ∀ units, producer.units = some units →
    producer.build units producer.schema = producer'.build units producer'.schema

theorem producers_simulate (codec : Codec) :
    Simulates (producers codec .native) (producers codec .wasm32) SameProducer := by
  intro producer producer' call same
  simp only [producers, OneShot.nextBatch]
  cases pending : producer.units with
  | none =>
      have done := same.units
      rw [pending] at done
      simp only [← done]
      exact ⟨trivial, same⟩
  | some units =>
      have waiting := same.units
      rw [pending] at waiting
      simp only [← waiting]
      exact ⟨by rw [same.build units pending], ⟨rfl, fun _ gone => by cases gone⟩⟩

theorem SameProducer.new {schema : Schema} {units : List DecodeUnit}
    {build build' : List DecodeUnit → Schema → Run (Except RpcError RecordBatch)}
    (alike : build units schema = build' units schema) :
    SameProducer (OneShot.new schema units build) (OneShot.new schema units build') where
  units := rfl
  build waiting isWaiting := by
    have same : units = waiting := Option.some.inj isWaiting
    rw [← same]
    exact alike

theorem producers_open_alike (codec : Codec) (fs : FileSystem)
    (request : TableFunction × ProcessParams)
    (narrow : ∀ units, Source.resolve codec fs request.2.arguments 0 = .ok units →
      NarrowUnits units) :
    OpensAlike SameProducer ((producers codec .native).start fs request)
      ((producers codec .wasm32).start fs request) := by
  obtain ⟨table, params⟩ := request
  cases resolved : Source.resolve codec fs params.arguments 0 with
  | error error =>
      have started : ∀ target, (producers codec target).start fs (table, params) = .error error :=
        fun target => producer_of_refused codec target table resolved
      rw [started, started]
      exact .refused error
  | ok units =>
      have started : ∀ target, (producers codec target).start fs (table, params) =
          .ok (OneShot.new params.outputSchema units (table.build target)) :=
        fun target => producer_of_resolve codec target table resolved
      rw [started, started]
      exact .opened (.new (build_narrow table (narrow units resolved) params.outputSchema))

/-- The worker in the browser answers all calls as the native one does, one by one, in
whatever order they come, as long as no producer reads a profile whose string indices
are too wide for it. -/
theorem builds_reply_alike (codec : Codec) (fs : FileSystem) (events : List ProducerEvent)
    (narrow : ∀ before request after, events = before ++ .start request :: after →
      ∀ units, Source.resolve codec ((producers codec .native).run ⟨fs, []⟩ before).2.env
        request.2.arguments 0 = .ok units → NarrowUnits units) :
    ((producers codec .native).run ⟨fs, []⟩ events).1 =
      ((producers codec .wasm32).run ⟨fs, []⟩ events).1 := by
  have same : SameSystem SameProducer (⟨fs, []⟩ : ProducerState) ⟨fs, []⟩ :=
    ⟨rfl, rfl, fun index _ _ found => by cases found⟩
  exact ((producers_simulate codec).run same events fun before request after shape =>
    producers_open_alike codec _ request (narrow before request after shape)).1

/-! One producer, asked once before and once after a file changes. -/

def oneProducer : List ProducerEvent :=
  [.start (.metaTable, ⟨Source.twoPaths, MetaTable.outputSchema⟩), .drive 0 (),
    .change (Source.twoFiles [0x48, 0x07]), .drive 0 ()]

theorem oneProducer_narrow {units : List DecodeUnit}
    (resolved : Source.resolve Source.plainCodec (Source.twoFiles []) Source.twoPaths 0 =
      .ok units) : NarrowUnits units := by
  have found : Source.resolve Source.plainCodec (Source.twoFiles []) Source.twoPaths 0 =
      .ok [⟨some "a.pb", .ok (.ofProfile { sample := [{ value := [5] }] })⟩,
        ⟨some "b.pb", .error "empty profile (zero bytes)"⟩] := rfl
  rw [found] at resolved
  cases resolved
  intro unit member d result idx isIndex wide
  simp only [List.mem_cons, List.not_mem_nil, or_false] at member
  rcases member with rfl | rfl
  · cases result
    cases List.mem_singleton.mp isIndex
    exact absurd wide (by decide)
  · cases result

theorem builds_reply_alike_oneProducer :
    ((producers Source.plainCodec .native).run ⟨Source.twoFiles [], []⟩ oneProducer).1 =
      ((producers Source.plainCodec .wasm32).run ⟨Source.twoFiles [], []⟩ oneProducer).1 := by
  refine builds_reply_alike Source.plainCodec (Source.twoFiles []) oneProducer ?_
  intro before request after shape units resolved
  cases before with
  | nil =>
      cases shape
      exact oneProducer_narrow resolved
  | cons event before =>
      have later : .start request ∈ oneProducer.tail := by
        rw [shape]
        simp
      simp [oneProducer] at later

end VgiPprof.Worker
