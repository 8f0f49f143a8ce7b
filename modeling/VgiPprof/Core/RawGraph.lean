import VgiPprof.Core.Join
import VgiPprof.Data.Relation

namespace VgiPprof.Core

open Data

/-! The raw views joined back together on the ids they pass through: the queries that
the ids are for. -/

namespace Rows

/-- `samples.location_ids[1] = locations.location_id` and
`locations.lines[1].function_id = functions.function_id`. -/
def leafJoin (samples : List SampleRow) (locations : List LocationRow)
    (functions : List FunctionRow) : List ((SampleRow × LocationRow) × FunctionRow) :=
  innerJoin (fun row => row.2.lines.head?.map (·.functionId)) (fun f => some f.functionId)
    (innerJoin (fun s => s.locationIds.head?) (fun l => some l.locationId) samples locations)
    functions

/-- The same on a `LEFT JOIN`, which keeps every sample. -/
def leafLeftJoin (samples : List SampleRow) (locations : List LocationRow)
    (functions : List FunctionRow) :
    List ((SampleRow × Option LocationRow) × Option FunctionRow) :=
  leftJoin (fun row => row.2.bind fun l => l.lines.head?.map (·.functionId))
    (fun f => some f.functionId)
    (leftJoin (fun s => s.locationIds.head?) (fun l => some l.locationId) samples locations)
    functions

/-- The measurements of a query that names the function at the leaf, or has NULL
there. -/
structure Attributed where
  sampleId : Int64
  value : List Int64
  function : Option String
  deriving DecidableEq, Repr

namespace Attributed

def ofJoin (row : (SampleRow × LocationRow) × FunctionRow) : Attributed :=
  ⟨row.1.1.sampleId, row.1.1.value, row.2.name⟩

def ofLeftJoin (row : (SampleRow × Option LocationRow) × Option FunctionRow) : Attributed :=
  ⟨row.1.1.sampleId, row.1.1.value, row.2.bind (·.name)⟩

def isNamed (row : Attributed) : Bool :=
  row.function.isSome

end Attributed

/-- `frame[1].function`. -/
def leafFunction (stack : StackRow) : Option String :=
  stack.frames.head?.bind (·.function)

def Attributed.ofStack (stack : StackRow) : Attributed :=
  ⟨stack.sampleId, stack.value, leafFunction stack⟩

/-- `sum(value[slot])` over the group of one function, or of NULL. -/
def selfTime (rows : List Attributed) (slot : Nat) (function : Option String) : Int :=
  ((rows.filter fun row => row.function = function).filterMap fun row =>
    row.value[slot]?.map (·.toInt)).sum

theorem selfTime_named (rows : List Attributed) (slot : Nat) (name : String) :
    selfTime (rows.filter Attributed.isNamed) slot (some name) =
      selfTime rows slot (some name) := by
  have kept : (rows.filter Attributed.isNamed).filter (fun row => row.function = some name) =
      rows.filter fun row => row.function = some name := by
    rw [List.filter_filter]
    refine List.filter_congr fun row _ => ?_
    cases named : row.function with
    | none => simp
    | some other => simp [Attributed.isNamed, named]
  rw [selfTime, selfTime, kept]

/-- `UNNEST(location_ids)`. -/
def unnestLocations (samples : List SampleRow) : List (Int64 × UInt64) :=
  samples.flatMap fun s => s.locationIds.map fun id => (s.sampleId, id)

/-- The addresses of the samples, each with the build id to look it up under:
`locations.location_id` joined in, then `mappings.mapping_id` where it is there. -/
def symbolizerInput (samples : List SampleRow) (locations : List LocationRow)
    (mappings : List MappingRow) : List (Int64 × UInt64 × Option String) :=
  (leftJoin (fun row => some row.2.mappingId) (fun m => some m.mappingId)
    (innerJoin (fun visit => some visit.2) (fun l => some l.locationId)
      (unnestLocations samples) locations)
    mappings).map fun row => (row.1.1.1, row.1.2.address, row.2.bind (·.buildId))

theorem head?_flatMap {α β : Type} {f : α → List β} (nonempty : ∀ x, f x ≠ [])
    (xs : List α) : (xs.flatMap f).head? = xs.head?.bind fun x => (f x).head? := by
  cases xs with
  | nil => rfl
  | cons x xs =>
      obtain ⟨y, ys, found⟩ := List.exists_cons_of_ne_nil (nonempty x)
      rw [List.flatMap_cons, found]
      simp [found]

theorem expandLocation_ne_nil (locations : List LocationRow) (functions : List FunctionRow)
    (locationId : UInt64) : expandLocation locations functions locationId ≠ [] := by
  rw [expandLocation]
  split
  · exact List.cons_ne_nil _ _
  · split
    · exact List.cons_ne_nil _ _
    · rename_i row _ lines
      simpa using lines

/-- The function that the first frame of a location names. -/
theorem head?_expandLocation (locations : List LocationRow) (functions : List FunctionRow)
    (locationId : UInt64) :
    (expandLocation locations functions locationId).head?.bind (·.function) =
      ((lastWith (·.locationId) locations locationId).bind fun l =>
        (l.lines.head?.map (·.functionId)).bind
          (lastWith (·.functionId) functions)).bind (·.name) := by
  rw [expandLocation]
  cases lastWith (·.locationId) locations locationId with
  | none => rfl
  | some row => cases lines : row.lines <;> simp [lines, lineRefFrame]

end Rows

namespace Decoded

open Rows

variable (target : Target) (d : Decoded)

/-- The raw tables carry their own ids once each. -/
structure DistinctIds : Prop where
  ofLocation : (d.profile.location.map (·.id)).Nodup
  ofFunction : (d.profile.function.map (·.id)).Nodup
  ofMapping : (d.profile.mapping.map (·.id)).Nodup

variable {d}

theorem DistinctIds.locationRows (distinct : DistinctIds d) :
    ((locations d).map (·.locationId)).Nodup := by
  have same : (locations d).map (·.locationId) = d.profile.location.map (·.id) := List.map_map
  rw [same]
  exact distinct.ofLocation

theorem DistinctIds.functionRows (distinct : DistinctIds d) :
    ((functions target d).map (·.functionId)).Nodup := by
  have same : (functions target d).map (·.functionId) = d.profile.function.map (·.id) :=
    List.map_map
  rw [same]
  exact distinct.ofFunction

theorem DistinctIds.mappingRows (distinct : DistinctIds d) :
    ((mappings target d).map (·.mappingId)).Nodup := by
  have same : (mappings target d).map (·.mappingId) = d.profile.mapping.map (·.id) :=
    List.map_map
  rw [same]
  exact distinct.ofMapping

variable (d)

theorem leafFunction_stackRow (i : Nat) (sample : Proto.Sample) :
    leafFunction (stackRow target d i sample) =
      ((sample.locationId.head?.bind (lastWith (·.locationId) (locations d))).bind fun l =>
        (l.lines.head?.map (·.functionId)).bind
          (lastWith (·.functionId) (functions target d))).bind (·.name) := by
  rw [leafFunction, stackRow_frames,
    head?_flatMap (expandLocation_ne_nil (locations d) (functions target d))]
  cases sample.locationId.head? with
  | none => rfl
  | some id => exact head?_expandLocation (locations d) (functions target d) id

variable {d}

theorem leafLeftJoin_rows (distinct : DistinctIds d) :
    (leafLeftJoin (samples target d) (locations d) (functions target d)).map
        Attributed.ofLeftJoin =
      (Decoded.stacks target d).map Attributed.ofStack := by
  rw [leafLeftJoin, leftJoin_distinct (distinct.functionRows target),
    leftJoin_distinct distinct.locationRows, samples, Decoded.stacks,
    List.mapIdx_eq_zipIdx_map, List.mapIdx_eq_zipIdx_map, List.map_map, List.map_map,
    List.map_map, List.map_map]
  apply List.map_congr_left
  rintro ⟨sample, i⟩ _
  simp only [Function.comp_apply, Attributed.ofStack, leafFunction_stackRow]
  simp only [Attributed.ofLeftJoin, sampleRow, stackRow, Option.bind_assoc]

theorem leafJoin_rows (distinct : DistinctIds d) :
    ((leafJoin (samples target d) (locations d) (functions target d)).map
        Attributed.ofJoin).filter Attributed.isNamed =
      ((Decoded.stacks target d).map Attributed.ofStack).filter Attributed.isNamed := by
  rw [leafJoin, innerJoin_distinct (distinct.functionRows target),
    innerJoin_distinct distinct.locationRows, samples, Decoded.stacks,
    List.mapIdx_eq_zipIdx_map, List.mapIdx_eq_zipIdx_map, ← List.filterMap_eq_filter,
    List.filterMap_map, List.filterMap_map, List.filterMap_map, List.filterMap_filterMap,
    List.filterMap_filterMap, List.filterMap_map]
  apply List.filterMap_congr
  rintro ⟨sample, i⟩ _
  simp only [Function.comp_apply, Attributed.ofStack, leafFunction_stackRow]
  simp only [Attributed.ofJoin, Attributed.isNamed, sampleRow, stackRow]
  -- what the leaf location is, then what its innermost line names
  cases sample.locationId.head?.bind (lastWith (·.locationId) (locations d)) with
  | none => rfl
  | some l =>
      simp only [Option.map_some, Option.bind_some]
      cases (l.lines.head?.map (·.functionId)).bind
          (lastWith (·.functionId) (functions target d)) with
      | none => rfl
      | some f => rfl

/-- Naming the leaf by joining the raw views agrees with the pre-joined view, sample by
sample when every sample is kept, on the named leaves when only what joins is, and so
does every sum over it. -/
theorem leafJoin_eq_stacks (distinct : DistinctIds d) :
    let stackRows := (Decoded.stacks target d).map Attributed.ofStack
    let keptRows := (leafLeftJoin (samples target d) (locations d)
      (functions target d)).map Attributed.ofLeftJoin
    let joinedRows := (leafJoin (samples target d) (locations d)
      (functions target d)).map Attributed.ofJoin
    keptRows = stackRows ∧
    joinedRows.filter Attributed.isNamed = stackRows.filter Attributed.isNamed ∧
    (∀ slot function, selfTime keptRows slot function = selfTime stackRows slot function) ∧
    ∀ slot name, selfTime joinedRows slot (some name) =
      selfTime stackRows slot (some name) := by
  intro stackRows keptRows joinedRows
  have kept : keptRows = stackRows := leafLeftJoin_rows target distinct
  have joined : joinedRows.filter Attributed.isNamed =
      stackRows.filter Attributed.isNamed := leafJoin_rows target distinct
  refine ⟨kept, joined, fun slot function => by rw [kept], fun slot name => ?_⟩
  rw [← selfTime_named, joined, selfTime_named]

/-! A symbolized leaf, and one without lines. -/

def symbolizedProfile : Proto.Profile where
  stringTable := ["", "main", "parse"]
  sample := [{ locationId := [1], value := [7] }, { locationId := [2, 1], value := [5] },
    { locationId := [1], value := [1] }]
  location := [{ id := 1, line := [{ functionId := 9 }] }, { id := 2 }]
  function := [{ id := 9, name := 1 }]

theorem leafJoin_eq_stacks_symbolizedProfile :
    (leafLeftJoin (samples .native (ofProfile symbolizedProfile))
        (locations (ofProfile symbolizedProfile))
        (functions .native (ofProfile symbolizedProfile))).map Attributed.ofLeftJoin =
      [⟨1, [7], some "main"⟩, ⟨2, [5], none⟩, ⟨3, [1], some "main"⟩] ∧
    selfTime ((leafJoin (samples .native (ofProfile symbolizedProfile))
        (locations (ofProfile symbolizedProfile))
        (functions .native (ofProfile symbolizedProfile))).map Attributed.ofJoin)
        0 (some "main") = 8 := by
  obtain ⟨kept, -, -, named⟩ := leafJoin_eq_stacks (d := ofProfile symbolizedProfile) .native
    ⟨by decide, by decide, by decide⟩
  exact ⟨kept.trans (by decide), (named 0 "main").trans (by decide)⟩

theorem symbolizerInput_rows (distinct : DistinctIds d) :
    symbolizerInput (samples target d) (locations d) (mappings target d) =
      (samples target d).flatMap fun s => s.locationIds.filterMap fun id =>
        (lastWith (·.id) d.profile.location id).map fun l =>
          (s.sampleId, l.address, (lastWith (·.id) d.profile.mapping l.mappingId).bind
            fun m => str target d m.buildId) := by
  have location (id : UInt64) : lastWith (·.locationId) (locations d) id =
      (lastWith (·.id) d.profile.location id).map locationRow := lastWith_map ..
  have mapping (id : UInt64) : lastWith (·.mappingId) (mappings target d) id =
      (lastWith (·.id) d.profile.mapping id).map (mappingRow target d) := lastWith_map ..
  rw [symbolizerInput, leftJoin_distinct (distinct.mappingRows target),
    innerJoin_distinct distinct.locationRows, unnestLocations, List.map_map,
    List.map_filterMap, List.filterMap_flatMap]
  refine List.flatMap_congr fun s _ => ?_
  rw [List.filterMap_map]
  apply List.filterMap_congr
  intro id _
  simp only [Function.comp_apply, Option.bind_some, location, Option.map_map]
  apply congrArg fun f => Option.map f (lastWith (·.id) d.profile.location id)
  funext l
  simp only [Function.comp_apply, locationRow, mapping, Option.bind_map]
  rfl

/-- No sample visits a location that is missing or has lines. -/
def Unsymbolized (profile : Proto.Profile) : Prop :=
  ∀ sample ∈ profile.sample, ∀ id ∈ sample.locationId,
    ∃ l ∈ profile.location, l.id = id ∧ l.line = []

theorem expandLocation_unsymbolized (distinct : DistinctIds d) {l : Proto.Location}
    (member : l ∈ d.profile.location) (bare : l.line = []) :
    expandLocation (locations d) (functions target d) l.id =
      [⟨none, none, none, l.address⟩] := by
  have found : lastWith (·.id) d.profile.location l.id = some l :=
    (lastWith_eq_some_iff distinct.ofLocation).mpr ⟨member, rfl⟩
  have row : lastWith (·.locationId) (locations d) l.id = some (locationRow l) := by
    have mapped : lastWith (·.locationId) (locations d) l.id =
        (lastWith (·.id) d.profile.location l.id).map locationRow := lastWith_map ..
    rw [mapped, found]
    rfl
  simp [expandLocation, row, locationRow, bare]

theorem addresses_unsymbolized (distinct : DistinctIds d)
    (unsymbolized : Unsymbolized d.profile) :
    ((samples target d).flatMap fun s => s.locationIds.filterMap fun id =>
      (lastWith (·.id) d.profile.location id).map fun l => (s.sampleId, l.address)) =
    (Decoded.stacks target d).flatMap fun stack =>
      stack.frames.map fun fr => (stack.sampleId, fr.address) := by
  rw [samples, Decoded.stacks, List.mapIdx_eq_zipIdx_map, List.mapIdx_eq_zipIdx_map,
    List.flatMap_map, List.flatMap_map]
  refine List.flatMap_congr fun pair member => ?_
  obtain ⟨sample, i⟩ := pair
  have inProfile : sample ∈ d.profile.sample := (List.mem_zipIdx' member).2 ▸
    List.getElem_mem _
  simp only [stackRow_frames, sampleRow]
  rw [List.map_flatMap, List.filterMap_eq_flatMap_toList]
  refine List.flatMap_congr fun id visited => ?_
  obtain ⟨l, isLocation, rfl, bare⟩ := unsymbolized sample inProfile id visited
  rw [expandLocation_unsymbolized target distinct isLocation bare,
    (lastWith_eq_some_iff distinct.ofLocation).mpr ⟨isLocation, rfl⟩]
  rfl

/-- Each visit of a known location gives one row, in order, with its own address and
the build id of its own mapping; only visits of unknown locations give none.  Where
nothing is symbolized the addresses are those of the frames. -/
theorem symbolizerInput_eq (distinct : DistinctIds d) :
    symbolizerInput (samples target d) (locations d) (mappings target d) =
      ((samples target d).flatMap fun s => s.locationIds.filterMap fun id =>
        (lastWith (·.id) d.profile.location id).map fun l =>
          (s.sampleId, l.address, (lastWith (·.id) d.profile.mapping l.mappingId).bind
            fun m => str target d m.buildId)) ∧
    (Unsymbolized d.profile →
      (symbolizerInput (samples target d) (locations d) (mappings target d)).map
          (fun row => (row.1, row.2.1)) =
        (Decoded.stacks target d).flatMap fun stack =>
          stack.frames.map fun fr => (stack.sampleId, fr.address)) := by
  refine ⟨symbolizerInput_rows target distinct, fun unsymbolized => ?_⟩
  rw [← addresses_unsymbolized target distinct unsymbolized,
    symbolizerInput_rows target distinct, List.map_flatMap]
  refine List.flatMap_congr fun s _ => ?_
  rw [List.map_filterMap]
  apply List.filterMap_congr
  intro id _
  rw [Option.map_map]
  rfl

/-! Two native frames under two mappings. -/

def nativeProfile : Proto.Profile where
  stringTable := ["", "deadbeef", "a1b2", "main"]
  sample := [{ locationId := [2, 1], value := [7] }, { locationId := [1], value := [5] }]
  location := [{ id := 1, mappingId := 1, address := 0x10 },
    { id := 2, mappingId := 2, address := 0x20 }]
  mapping := [{ id := 1, buildId := 1 }, { id := 2, buildId := 2 }]

theorem symbolizerInput_eq_nativeProfile :
    symbolizerInput (samples .native (ofProfile nativeProfile))
        (locations (ofProfile nativeProfile)) (mappings .native (ofProfile nativeProfile)) =
      [(1, 0x20, some "a1b2"), (1, 0x10, some "deadbeef"), (2, 0x10, some "deadbeef")] :=
  (symbolizerInput_eq .native ⟨by decide, by decide, by decide⟩).1.trans (by decide)

end Decoded

end VgiPprof.Core
