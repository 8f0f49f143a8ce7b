import VgiPprof.Core.Join

namespace VgiPprof.Core

open Data

/-! Two encodings of one profile: string positions permuted, location and
function ids renamed, tables reordered. -/

structure Renumbering where
  string : Nat → Nat
  location : UInt64 → UInt64
  function : UInt64 → UInt64

namespace Renumbering

/-- A permutation of the positions of a table of `size` strings that fixes the
first and names every new position by an `i64`, and renamings that merge no two
ids. -/
structure Valid (r : Renumbering) (size : Nat) : Prop where
  string_lt : ∀ i, i < size → r.string i < size
  string_injective : ∀ i j, i < size → j < size → r.string i = r.string j → i = j
  string_zero : r.string 0 = 0
  string_fits : ∀ i, i < size → r.string i < 2 ^ 63
  location_injective : Function.Injective r.location
  function_injective : Function.Injective r.function

variable (r : Renumbering) (size : Nat)

def index (idx : Int64) : Int64 :=
  if 0 ≤ idx.toInt ∧ idx.toInt < size then Int64.ofNat (r.string idx.toInt.toNat)
  else idx

def valueType (vt : Proto.ValueType) : Proto.ValueType where
  type := r.index size vt.type
  unit := r.index size vt.unit

def label (lbl : Proto.Label) : Proto.Label where
  key := r.index size lbl.key
  str := r.index size lbl.str
  num := lbl.num
  numUnit := r.index size lbl.numUnit

def sample (s : Proto.Sample) : Proto.Sample where
  locationId := s.locationId.map r.location
  value := s.value
  label := s.label.map (r.label size)

def mapping (m : Proto.Mapping) : Proto.Mapping :=
  { m with
    filename := r.index size m.filename
    buildId := r.index size m.buildId }

def line (ln : Proto.Line) : Proto.Line :=
  { ln with functionId := r.function ln.functionId }

def locationEntry (l : Proto.Location) : Proto.Location :=
  { l with
    id := r.location l.id
    line := l.line.map r.line }

def functionEntry (f : Proto.Function) : Proto.Function where
  id := r.function f.id
  name := r.index size f.name
  systemName := r.index size f.systemName
  filename := r.index size f.filename
  startLine := f.startLine

/-- `renumbered` is `profile` with its strings, ids and table order changed as
the renumbering says. -/
structure Relates (profile renumbered : Proto.Profile) : Prop where
  strings_length : renumbered.stringTable.length = profile.stringTable.length
  strings : ∀ i, i < profile.stringTable.length →
    renumbered.stringTable[r.string i]? = profile.stringTable[i]?
  sampleType : renumbered.sampleType =
    profile.sampleType.map (r.valueType profile.stringTable.length)
  sample : renumbered.sample =
    profile.sample.map (r.sample profile.stringTable.length)
  mapping : renumbered.mapping.Perm
    (profile.mapping.map (r.mapping profile.stringTable.length))
  location : renumbered.location.Perm (profile.location.map r.locationEntry)
  function : renumbered.function.Perm
    (profile.function.map (r.functionEntry profile.stringTable.length))
  dropFrames : renumbered.dropFrames =
    r.index profile.stringTable.length profile.dropFrames
  keepFrames : renumbered.keepFrames =
    r.index profile.stringTable.length profile.keepFrames
  timeNanos : renumbered.timeNanos = profile.timeNanos
  durationNanos : renumbered.durationNanos = profile.durationNanos
  periodType : renumbered.periodType =
    profile.periodType.map (r.valueType profile.stringTable.length)
  period : renumbered.period = profile.period
  comment : renumbered.comment =
    profile.comment.map (r.index profile.stringTable.length)
  defaultSampleType : renumbered.defaultSampleType =
    r.index profile.stringTable.length profile.defaultSampleType
  docUrl : renumbered.docUrl =
    r.index profile.stringTable.length profile.docUrl

/-! What the renumbering does to the rows. -/

def sampleRow (row : SampleRow) : SampleRow :=
  { row with locationIds := row.locationIds.map r.location }

def functionRow (row : FunctionRow) : FunctionRow :=
  { row with functionId := r.function row.functionId }

def locationRow (row : LocationRow) : LocationRow :=
  { row with
    locationId := r.location row.locationId
    lines := row.lines.map fun ref => ⟨r.function ref.functionId, ref.line⟩ }

variable {r size}

theorem index_of_inRange (valid : r.Valid size) {idx : Int64}
    (inRange : 0 ≤ idx.toInt ∧ idx.toInt < size) :
    (r.index size idx).toInt = r.string idx.toInt.toNat := by
  rw [index, if_pos inRange]
  exact Int64.toInt_ofNat_of_lt (valid.string_fits _ (by omega))

theorem index_of_outOfRange {idx : Int64}
    (outOfRange : ¬ (0 ≤ idx.toInt ∧ idx.toInt < size)) :
    r.index size idx = idx := by
  rw [index, if_neg outOfRange]

theorem string_eq_zero_iff (valid : r.Valid size) {i : Nat} (bound : i < size) :
    r.string i = 0 ↔ i = 0 := by
  constructor
  · intro first
    exact valid.string_injective i 0 bound (by omega)
      (first.trans valid.string_zero.symm)
  · rintro rfl
    exact valid.string_zero

/-- Labels branch on whether the raw index is zero; rewriting keeps the branch. -/
theorem index_eq_zero_iff (valid : r.Valid size) (idx : Int64) :
    r.index size idx = 0 ↔ idx = 0 := by
  by_cases inRange : 0 ≤ idx.toInt ∧ idx.toInt < size
  · have zero := string_eq_zero_iff valid (i := idx.toInt.toNat) (by omega)
    rw [← Int64.toInt_inj, ← Int64.toInt_inj, index_of_inRange valid inRange,
      Int64.toInt_zero]
    omega
  · rw [index_of_outOfRange inRange]

end Renumbering

namespace Decoded

theorem asUsize_native {idx : Int64} (nonneg : 0 ≤ idx.toInt) :
    Target.native.asUsize idx = idx.toInt.toNat := by
  have := idx.toInt_lt
  simp only [Target.asUsize, Target.usizeBits]
  omega

section Invariance

variable {r : Renumbering} {profile renumbered : Proto.Profile}
  (valid : r.Valid profile.stringTable.length)
  (relates : r.Relates profile renumbered)

include valid relates

theorem str_renumbered (idx : Int64) :
    str .native (ofProfile renumbered) (r.index profile.stringTable.length idx) =
      str .native (ofProfile profile) idx := by
  by_cases inRange : 0 ≤ idx.toInt ∧ idx.toInt < profile.stringTable.length
  · have moved := Renumbering.index_of_inRange valid inRange
    have bound : idx.toInt.toNat < profile.stringTable.length := by omega
    have zero := Renumbering.string_eq_zero_iff valid bound
    have sign : r.index profile.stringTable.length idx ≤ 0 ↔ idx ≤ 0 := by
      rw [Int64.le_iff_toInt_le, Int64.le_iff_toInt_le, moved, Int64.toInt_zero]
      omega
    have entry : (ofProfile renumbered).profile.stringTable[
          Target.native.asUsize (r.index profile.stringTable.length idx)]? =
        (ofProfile profile).profile.stringTable[Target.native.asUsize idx]? := by
      rw [asUsize_native inRange.1, asUsize_native (by omega), moved]
      exact relates.strings _ bound
    simp only [str, sign, entry]
  · rw [Renumbering.index_of_outOfRange inRange]
    by_cases nonpositive : idx ≤ 0
    · simp only [str, if_pos nonpositive]
    · have positive : 0 < idx.toInt := by
        rw [Int64.le_iff_toInt_le, Int64.toInt_zero] at nonpositive
        omega
      have missing : ∀ table : List String,
          table.length = profile.stringTable.length →
          table[Target.native.asUsize idx]? = none := by
        intro table length
        rw [asUsize_native (by omega), List.getElem?_eq_none_iff]
        omega
      have before : (ofProfile profile).profile.stringTable[
          Target.native.asUsize idx]? = none := missing _ rfl
      have after : (ofProfile renumbered).profile.stringTable[
          Target.native.asUsize idx]? = none := missing _ relates.strings_length
      simp only [str, before, after]

theorem valueType_renumbered (vt : Proto.ValueType) :
    valueType .native (ofProfile renumbered)
        (r.valueType profile.stringTable.length vt) =
      valueType .native (ofProfile profile) vt := by
  simp only [valueType, Renumbering.valueType, str_renumbered valid relates]

theorem labels_renumbered (sample : Proto.Sample) :
    labels .native (ofProfile renumbered)
        (r.sample profile.stringTable.length sample) =
      labels .native (ofProfile profile) sample := by
  simp only [labels, Renumbering.sample, List.foldl_map, labelKey, labelValue,
    Renumbering.label, str_renumbered valid relates, ne_eq,
    Renumbering.index_eq_zero_iff valid]

theorem functionRow_renumbered (f : Proto.Function) :
    functionRow .native (ofProfile renumbered)
        (r.functionEntry profile.stringTable.length f) =
      r.functionRow (functionRow .native (ofProfile profile) f) := by
  simp only [functionRow, Renumbering.functionEntry, Renumbering.functionRow,
    str_renumbered valid relates]

theorem functions_renumbered :
    (functions .native (ofProfile renumbered)).Perm
      ((functions .native (ofProfile profile)).map r.functionRow) := by
  have reordered := relates.function.map
    (functionRow .native (ofProfile renumbered))
  rw [List.map_map] at reordered
  simp only [functions, List.map_map]
  refine reordered.trans (List.Perm.of_eq (List.map_congr_left fun f _ => ?_))
  exact functionRow_renumbered valid relates f

theorem mappings_renumbered :
    (mappings .native (ofProfile renumbered)).Perm
      (mappings .native (ofProfile profile)) := by
  have reordered := relates.mapping.map
    (mappingRow .native (ofProfile renumbered))
  rw [List.map_map] at reordered
  refine reordered.trans (List.Perm.of_eq (List.map_congr_left fun m _ => ?_))
  simp only [Function.comp, mappingRow, Renumbering.mapping,
    str_renumbered valid relates]

omit valid in
theorem locations_renumbered :
    (locations (ofProfile renumbered)).Perm
      ((locations (ofProfile profile)).map r.locationRow) := by
  have reordered := relates.location.map locationRow
  rw [List.map_map] at reordered
  simp only [locations, List.map_map]
  refine reordered.trans (List.Perm.of_eq (List.map_congr_left fun l _ => ?_))
  simp only [Function.comp, locationRow, Renumbering.locationEntry,
    Renumbering.locationRow, List.map_map]
  rfl

theorem samples_renumbered :
    samples .native (ofProfile renumbered) =
      (samples .native (ofProfile profile)).map r.sampleRow := by
  apply List.ext_getElem?
  intro k
  have sampleTable : (ofProfile renumbered).profile.sample =
      profile.sample.map (r.sample profile.stringTable.length) := relates.sample
  simp only [samples, sampleTable, List.getElem?_map, List.getElem?_mapIdx,
    Option.map_map]
  congr 1
  funext sample
  simp only [Function.comp, sampleRow, Renumbering.sampleRow,
    labels_renumbered valid relates]
  rfl

theorem metaRow_renumbered :
    metaRow .native (ofProfile renumbered) = metaRow .native (ofProfile profile) := by
  have valueTypes : valueType .native (ofProfile renumbered) ∘
      r.valueType profile.stringTable.length =
      valueType .native (ofProfile profile) :=
    funext (valueType_renumbered valid relates)
  have sampleTypes : (ofProfile renumbered).profile.sampleType.map
        (valueType .native (ofProfile renumbered)) =
      profile.sampleType.map (valueType .native (ofProfile profile)) := by
    change renumbered.sampleType.map _ = _
    rw [relates.sampleType, List.map_map, valueTypes]
  have periodType : (ofProfile renumbered).profile.periodType.map
        (valueType .native (ofProfile renumbered)) =
      profile.periodType.map (valueType .native (ofProfile profile)) := by
    change renumbered.periodType.map _ = _
    rw [relates.periodType, Option.map_map, valueTypes]
  have default : str .native (ofProfile renumbered)
        (ofProfile renumbered).profile.defaultSampleType =
      str .native (ofProfile profile) profile.defaultSampleType := by
    change str _ _ renumbered.defaultSampleType = _
    rw [relates.defaultSampleType, str_renumbered valid relates]
  have period : (ofProfile renumbered).profile.period = profile.period :=
    relates.period
  have duration : (ofProfile renumbered).profile.durationNanos =
      profile.durationNanos := relates.durationNanos
  have time : (ofProfile renumbered).profile.timeNanos = profile.timeNanos :=
    relates.timeNanos
  simp only [metaRow, sampleTypes, periodType, default, period, duration, time]
  rfl

variable (distinctLocations : (profile.location.map (·.id)).Nodup)
  (distinctFunctions : (profile.function.map (·.id)).Nodup)

include distinctFunctions in
theorem lastWith_functions_renumbered (id : UInt64) :
    lastWith (·.functionId) (functions .native (ofProfile renumbered))
        (r.function id) =
      (lastWith (·.functionId) (functions .native (ofProfile profile)) id).map
        r.functionRow := by
  have distinct : (((functions .native (ofProfile profile)).map r.functionRow).map
      (·.functionId)).Nodup := by
    have ids : ((functions .native (ofProfile profile)).map r.functionRow).map
        (·.functionId) = (profile.function.map (·.id)).map r.function := by
      simp only [functions, List.map_map]
      rfl
    rw [ids]
    exact distinctFunctions.map valid.function_injective
  rw [← lastWith_perm (functions_renumbered valid relates).symm distinct,
    lastWith_map]
  congr 1
  exact lastWith_comp valid.function_injective ..

include distinctLocations in
theorem lastWith_locations_renumbered (id : UInt64) :
    lastWith (·.locationId) (locations (ofProfile renumbered)) (r.location id) =
      (lastWith (·.locationId) (locations (ofProfile profile)) id).map
        r.locationRow := by
  have distinct : (((locations (ofProfile profile)).map r.locationRow).map
      (·.locationId)).Nodup := by
    have ids : ((locations (ofProfile profile)).map r.locationRow).map
        (·.locationId) = (profile.location.map (·.id)).map r.location := by
      simp only [locations, List.map_map]
      rfl
    rw [ids]
    exact distinctLocations.map valid.location_injective
  rw [← lastWith_perm (locations_renumbered relates).symm distinct,
    lastWith_map]
  congr 1
  exact lastWith_comp valid.location_injective ..

include distinctLocations distinctFunctions in
theorem expandLocation_renumbered (id : UInt64) :
    Rows.expandLocation (locations (ofProfile renumbered))
        (functions .native (ofProfile renumbered)) (r.location id) =
      Rows.expandLocation (locations (ofProfile profile))
        (functions .native (ofProfile profile)) id := by
  rw [Rows.expandLocation, Rows.expandLocation,
    lastWith_locations_renumbered valid relates distinctLocations]
  cases lastWith (·.locationId) (locations (ofProfile profile)) id with
  | none => rfl
  | some row =>
      simp only [Option.map_some, Renumbering.locationRow, List.isEmpty_map,
        List.map_map]
      congr 2
      funext ref
      simp only [Function.comp, Rows.lineRefFrame,
        lastWith_functions_renumbered valid relates distinctFunctions]
      cases lastWith (·.functionId) (functions .native (ofProfile profile))
        ref.functionId <;> rfl

include distinctLocations distinctFunctions in
theorem stacks_renumbered :
    Decoded.stacks .native (ofProfile renumbered) = Decoded.stacks .native (ofProfile profile) := by
  apply List.ext_getElem?
  intro k
  have sampleTable : (ofProfile renumbered).profile.sample =
      profile.sample.map (r.sample profile.stringTable.length) := relates.sample
  simp only [Decoded.stacks, sampleTable, List.getElem?_map, List.getElem?_mapIdx,
    Option.map_map]
  congr 1
  funext sample
  have frames : (stackRow .native (ofProfile renumbered) k
        (r.sample profile.stringTable.length sample)).frames =
      (stackRow .native (ofProfile profile) k sample).frames := by
    rw [stackRow_frames, stackRow_frames]
    change (sample.locationId.map r.location).flatMap _ = _
    rw [List.flatMap_map]
    congr 1
    funext id
    exact expandLocation_renumbered valid relates distinctLocations
      distinctFunctions id
  have labels := labels_renumbered valid relates sample
  simp only [stackRow] at frames
  simp only [Function.comp, stackRow, labels, frames]
  rfl

end Invariance

/-- The views depend on what a profile says, not on how its strings and ids are
numbered or its tables are ordered. -/
theorem views_renumbered (r : Renumbering) (profile renumbered : Proto.Profile)
    (distinctLocations : (profile.location.map (·.id)).Nodup)
    (distinctFunctions : (profile.function.map (·.id)).Nodup)
    (valid : r.Valid profile.stringTable.length)
    (relates : r.Relates profile renumbered) :
    Decoded.stacks .native (ofProfile renumbered) = Decoded.stacks .native (ofProfile profile) ∧
    metaRow .native (ofProfile renumbered) = metaRow .native (ofProfile profile) ∧
    samples .native (ofProfile renumbered) =
      (samples .native (ofProfile profile)).map r.sampleRow ∧
    (functions .native (ofProfile renumbered)).Perm
      ((functions .native (ofProfile profile)).map r.functionRow) ∧
    (locations (ofProfile renumbered)).Perm
      ((locations (ofProfile profile)).map r.locationRow) ∧
    (mappings .native (ofProfile renumbered)).Perm
      (mappings .native (ofProfile profile)) :=
  ⟨stacks_renumbered valid relates distinctLocations distinctFunctions,
    metaRow_renumbered valid relates, samples_renumbered valid relates,
    functions_renumbered valid relates, locations_renumbered relates,
    mappings_renumbered valid relates⟩

def twoLocations : Proto.Profile where
  sampleType := [⟨2, 1⟩]
  sample := [⟨[1, 2, 9], [5], [⟨2, 1, 0, 0⟩, ⟨7, 0, 3, 2⟩]⟩]
  mapping := [{ id := 1, filename := 2 }, { id := 2, filename := 1 }]
  location := [⟨1, 1, 0x40, [⟨4, 10, 0⟩, ⟨3, 11, 0⟩], false⟩, ⟨2, 1, 0x50, [], false⟩]
  function := [⟨3, 1, 1, 2, 0⟩, ⟨4, 2, 2, 2, 7⟩]
  stringTable := ["", "main", "work"]

def twoLocationsRenumbered : Proto.Profile where
  sampleType := [⟨1, 2⟩]
  sample := [⟨[11, 12, 19], [5], [⟨1, 2, 0, 0⟩, ⟨7, 0, 3, 1⟩]⟩]
  mapping := [{ id := 2, filename := 2 }, { id := 1, filename := 1 }]
  location := [⟨12, 1, 0x50, [], false⟩, ⟨11, 1, 0x40, [⟨5, 10, 0⟩, ⟨4, 11, 0⟩], false⟩]
  function := [⟨5, 1, 1, 1, 7⟩, ⟨4, 2, 2, 1, 0⟩]
  stringTable := ["", "work", "main"]

def swapStrings : Renumbering where
  string i := if i = 1 then 2 else if i = 2 then 1 else i
  location id := id + 10
  function id := id + 1

theorem views_renumbered_twoLocations :
    Decoded.stacks .native (ofProfile twoLocationsRenumbered) =
      Decoded.stacks .native (ofProfile twoLocations) :=
  (views_renumbered swapStrings twoLocations twoLocationsRenumbered
    (by decide) (by decide)
    { string_lt := by decide
      string_injective := by
        intro i j iBound jBound same
        simp only [swapStrings] at same
        grind
      string_zero := rfl
      string_fits := by decide
      location_injective := fun a b same => by simpa [swapStrings] using same
      function_injective := fun a b same => by simpa [swapStrings] using same }
    { strings_length := rfl
      strings := by decide
      sampleType := by decide
      sample := by decide
      mapping := by decide
      location := by decide
      function := by decide
      dropFrames := by decide
      keepFrames := by decide
      timeNanos := rfl
      durationNanos := rfl
      periodType := rfl
      period := rfl
      comment := rfl
      defaultSampleType := by decide
      docUrl := by decide }).1

end Decoded

end VgiPprof.Core
