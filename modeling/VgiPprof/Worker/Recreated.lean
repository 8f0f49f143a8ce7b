import VgiPprof.Worker.Parts
import VgiPprof.Worker.Producers

namespace VgiPprof.Worker

open Arrow VgiPprof.Core Data

/-! A producer that is created anew, and what it may deliver instead of the first. -/

namespace Source

/-- Between the two, a source's patterns still find the same paths, in any order and
past any unreadable places, and only files at `changed` were rewritten. -/
structure ChangedWithin (changed : Set OsPath) (specs : List String)
    (fs fs' : FileSystem) : Prop where
  glob : ∀ spec ∈ specs, Option.Rel (fun walk walk' : List (Option OsPath) =>
    walk.reduceOption.Perm walk'.reduceOption) (fs.glob spec) (fs'.glob spec)
  read : ∀ path ∉ changed, fs.read path = fs'.read path

/-- The unit of a file at none of these paths, or of no file. -/
def Outside (changed : Set OsPath) (unit : DecodeUnit) : Prop :=
  ∀ file, unit.file = some file → Utf8.encode file ∉ changed

structure SameOutside (changed : Set OsPath) (unit unit' : DecodeUnit) : Prop where
  file : unit.file = unit'.file
  result : Outside changed unit → unit.result = unit'.result

variable {codec : Codec} {fs fs' : FileSystem} {changed : Set OsPath} {specs : List String}
  {args : Arguments} {pos : Nat}

theorem SameOutside.refl (changed : Set OsPath) (unit : DecodeUnit) :
    SameOutside changed unit unit :=
  ⟨rfl, fun _ => rfl⟩

theorem ChangedWithin.refl (changed : Set OsPath) (specs : List String) (fs : FileSystem) :
    ChangedWithin changed specs fs fs where
  glob spec _ := by
    cases fs.glob spec with
    | none => exact .none
    | some walk => exact .some (.refl _)
  read _ _ := rfl

theorem ChangedWithin.fileUnit_same (within : ChangedWithin changed specs fs fs')
    (path : String) :
    SameOutside changed (fileUnit codec fs path) (fileUnit codec fs' path) := by
  refine ⟨rfl, fun outside => ?_⟩
  simp only [fileUnit, decodeFile, within.read _ (outside path rfl)]

theorem ChangedWithin.resolve_same
    (within : ∀ specs, pathSpecs args pos = .ok (some specs) →
      ChangedWithin changed specs fs fs') {units : List DecodeUnit}
    (resolved : resolve codec fs args pos = .ok units) :
    ∃ units', resolve codec fs' args pos = .ok units' ∧
      List.Forall₂ (SameOutside changed) units units' := by
  refine resolve_related (SameOutside.refl changed) (fun specs found => ?_) resolved
  refine ⟨List.flatMap_congr fun spec member => ?_, (within specs found).fileUnit_same⟩
  exact expand_of_sameWalk ((within specs found).glob spec member)

theorem eq_of_outside {units units' : List DecodeUnit}
    (same : List.Forall₂ (SameOutside changed) units units')
    (outside : ∀ unit ∈ units, Outside changed unit) : units = units' := by
  induction same with
  | nil => rfl
  | @cons unit unit' _ _ first _ induction =>
      obtain ⟨here, others⟩ := List.forall_mem_cons.mp outside
      have equal : unit = unit' := by
        obtain ⟨file, result⟩ := unit
        obtain ⟨file', result'⟩ := unit'
        have sameFile : file = file' := first.file
        have sameResult : result = result' := first.result here
        rw [sameFile, sameResult]
      rw [equal, induction others]

end Source

open Source

/-- A producer created anew delivers what the first one did, except for the sources
that were rewritten in between, whichever calls of this and of other producers come
before, between and after the two. -/
theorem recreated_delivers (codec : Codec) (target : Target) (state : ProducerState)
    (before between after : List ProducerEvent) (table : TableFunction)
    (params : ProcessParams) (changed : Set OsPath)
    (within : ∀ specs, pathSpecs params.arguments 0 = .ok (some specs) →
      ∀ fs, .change fs ∈ between → ChangedWithin changed specs
        ((producers codec target).run state before).2.env fs)
    {units : List DecodeUnit}
    (resolved : resolve codec ((producers codec target).run state before).2.env
      params.arguments 0 = .ok units) :
    let create : ProducerEvent := .start (table, params)
    let events := before ++ create :: (between ++ create :: after)
    let first := ((producers codec target).run state before).2.components.length
    let second :=
      ((producers codec target).run state (before ++ create :: between)).2.components.length
    let replies := ((producers codec target).run state events).1
    ∃ units', resolve codec
          ((producers codec target).run state (before ++ create :: between)).2.env
          params.arguments 0 = .ok units' ∧
      List.Forall₂ (SameOutside changed) units units' ∧
      ((∀ unit ∈ units, Outside changed unit) → units' = units) ∧
      Reply.outputs first replies = once (table.build target units params.outputSchema)
        (Event.drives first (between ++ create :: after)).length ∧
      Reply.outputs second replies = once (table.build target units' params.outputSchema)
        (Event.drives second after).length := by
  intro create events first second replies
  have kept : ∀ specs, pathSpecs params.arguments 0 = .ok (some specs) →
      ChangedWithin changed specs ((producers codec target).run state before).2.env
        ((producers codec target).run state (before ++ create :: between)).2.env := by
    intro specs found
    rw [Component.run_append]
    refine Component.run_env _ (ChangedWithin.refl changed specs _) fun fs member => ?_
    obtain isCreate | inBetween := List.mem_cons.mp member
    · have impossible : (.change fs : ProducerEvent) = .start (table, params) := isCreate
      cases impossible
    · exact within specs found fs inBetween
  obtain ⟨units', resolved', same⟩ := ChangedWithin.resolve_same kept resolved
  refine ⟨units', resolved', same, fun outside => (eq_of_outside same outside).symm, ?_, ?_⟩
  · exact outputs_of_producer codec target state before _ table params resolved
  · have whole : events = (before ++ create :: between) ++ create :: after := by
      simp only [events, List.append_assoc, List.cons_append]
    have outputs := outputs_of_producer codec target state (before ++ create :: between)
      after table params resolved'
    rw [← whole] at outputs
    exact outputs

/-! Two files, the second of which is rewritten before the producer is created anew. -/

def emptySecond : DecodeUnit :=
  ⟨some "b.pb", .error "empty profile (zero bytes)"⟩

def rewrittenSecond : DecodeUnit :=
  ⟨some "b.pb", .ok (.ofProfile { timeNanos := 7 })⟩

theorem twoFiles_changedWithin (specs : List String) :
    ChangedWithin {path | path = Utf8.encode "b.pb"} specs (twoFiles [])
      (twoFiles [0x48, 0x07]) where
  glob _ _ := .some (.refl _)
  read path elsewhere := by
    have other : path ≠ Utf8.encode "b.pb" := elsewhere
    simp only [twoFiles, if_neg other]

theorem recreated_delivers_twoFiles :
    let create : ProducerEvent := .start (.metaTable, ⟨twoPaths, MetaTable.outputSchema⟩)
    let replies := ((producers plainCodec .native).run ⟨twoFiles [], []⟩
      [create, .drive 0 (), .change (twoFiles [0x48, 0x07]), create, .drive 1 (),
        .drive 0 ()]).1
    Reply.outputs 0 replies = once (TableFunction.metaTable.build .native
        [goodUnit, emptySecond] MetaTable.outputSchema) 2 ∧
      Reply.outputs 1 replies = once (TableFunction.metaTable.build .native
        [goodUnit, rewrittenSecond] MetaTable.outputSchema) 1 := by
  intro create replies
  have before : resolve plainCodec (twoFiles []) twoPaths 0 =
      .ok [goodUnit, emptySecond] := rfl
  have rewritten : resolve plainCodec (twoFiles [0x48, 0x07]) twoPaths 0 =
      .ok [goodUnit, rewrittenSecond] := rfl
  have within (fs : FileSystem) (isChange : (.change fs : ProducerEvent) ∈
      [.drive 0 (), .change (twoFiles [0x48, 0x07])]) : fs = twoFiles [0x48, 0x07] := by
    simpa using isChange
  obtain ⟨units', resolved, -, -, first, second⟩ := recreated_delivers plainCodec .native
    ⟨twoFiles [], []⟩ [] [.drive 0 (), .change (twoFiles [0x48, 0x07])]
    [.drive 1 (), .drive 0 ()] .metaTable ⟨twoPaths, MetaTable.outputSchema⟩
    {path | path = Utf8.encode "b.pb"}
    (fun specs _ fs isChange => within fs isChange ▸ twoFiles_changedWithin specs) before
  cases rewritten.symm.trans resolved
  exact ⟨first, second⟩

end VgiPprof.Worker
