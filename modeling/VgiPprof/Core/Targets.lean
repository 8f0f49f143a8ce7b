import VgiPprof.Core.Decoded

namespace VgiPprof.Core

/-! The native and the browser build of the flattener side by side.  They differ
in the width of `usize`, which `str` casts a stored index to. -/

namespace Proto

def ValueType.stringIndices (vt : ValueType) : List Int64 :=
  [vt.type, vt.unit]

def Label.stringIndices (lbl : Label) : List Int64 :=
  [lbl.key, lbl.str, lbl.numUnit]

def Function.stringIndices (f : Function) : List Int64 :=
  [f.name, f.systemName, f.filename]

def Mapping.stringIndices (m : Mapping) : List Int64 :=
  [m.filename, m.buildId]

def Profile.stringIndices (profile : Profile) : List Int64 :=
  profile.sampleType.flatMap (·.stringIndices) ++
  profile.sample.flatMap (fun sample => sample.label.flatMap (·.stringIndices)) ++
  profile.function.flatMap (·.stringIndices) ++
  profile.mapping.flatMap (·.stringIndices) ++
  profile.periodType.toList.flatMap (·.stringIndices) ++
  [profile.defaultSampleType]

end Proto

def tableEntry (table : List String) (position : Nat) : Option String :=
  (table[position]?).filter fun s => !s.isEmpty

/-- Indices whose 32-bit remainder selects what the index itself selects. -/
def Unaliased (table : List String) (idx : Int64) : Prop :=
  2 ^ 32 ≤ idx.toInt →
    tableEntry table (idx.toInt.toNat % 2 ^ 32) = tableEntry table idx.toInt.toNat

namespace Decoded

/-- `str` on one index, as documented: a string exactly for the positive
in-range indices of non-empty entries. -/
def ResolvesStored (target : Target) (d : Decoded) (idx : Int64) : Prop :=
  ∀ s, str target d idx = some s ↔
    0 < idx.toInt ∧ idx.toInt < d.profile.stringTable.length ∧
    d.profile.stringTable[idx.toInt.toNat]? = some s ∧ s ≠ ""

/-- Both builds resolve every stored index as documented and give equal rows. -/
structure TargetsAgree (d : Decoded) : Prop where
  resolves : ∀ idx ∈ d.profile.stringIndices, ∀ target,
    ResolvesStored target d idx
  stackRows : Decoded.stacks .native d = Decoded.stacks .wasm32 d
  samples : samples .native d = samples .wasm32 d
  functions : functions .native d = functions .wasm32 d
  mappings : mappings .native d = mappings .wasm32 d
  metaRow : metaRow .native d = metaRow .wasm32 d

theorem str_eq_tableEntry (target : Target) (d : Decoded) {idx : Int64}
    (positive : 0 < idx.toInt) :
    str target d idx =
      tableEntry d.profile.stringTable
        (idx.toInt.toNat % 2 ^ target.usizeBits) := by
  have above : ¬ idx ≤ 0 := by
    rw [Int64.le_iff_toInt_le, Int64.toInt_zero]
    omega
  have cast : target.asUsize idx = idx.toInt.toNat % 2 ^ target.usizeBits := by
    cases target <;> simp only [Target.asUsize, Target.usizeBits] <;> omega
  rw [str, if_neg above, cast, tableEntry]

theorem str_of_nonpositive (target : Target) (d : Decoded) {idx : Int64}
    (nonpositive : idx.toInt ≤ 0) : str target d idx = none := by
  rw [str, if_pos]
  rw [Int64.le_iff_toInt_le, Int64.toInt_zero]
  exact nonpositive

theorem tableEntry_eq_some_iff (table : List String) (position : Nat) (s : String) :
    tableEntry table position = some s ↔ table[position]? = some s ∧ s ≠ "" := by
  simp [tableEntry, Option.filter_eq_some_iff]

theorem resolvesStored_iff_of_positive (target : Target) (d : Decoded) {idx : Int64}
    (positive : 0 < idx.toInt) :
    ResolvesStored target d idx ↔
      tableEntry d.profile.stringTable (idx.toInt.toNat % 2 ^ target.usizeBits) =
        tableEntry d.profile.stringTable idx.toInt.toNat := by
  have inRange : ∀ s, d.profile.stringTable[idx.toInt.toNat]? = some s →
      idx.toInt < d.profile.stringTable.length := by
    intro s found
    have := (List.getElem?_eq_some_iff.mp found).1
    omega
  rw [ResolvesStored, str_eq_tableEntry target d positive, Option.ext_iff]
  constructor
  · intro stored s
    rw [stored s, tableEntry_eq_some_iff]
    exact ⟨fun found => found.2.2, fun found => ⟨positive, inRange s found.1, found⟩⟩
  · intro same s
    rw [same s, tableEntry_eq_some_iff]
    exact ⟨fun found => ⟨positive, inRange s found.1, found⟩, fun found => found.2.2⟩

theorem resolvesStored_of_nonpositive (target : Target) (d : Decoded) {idx : Int64}
    (nonpositive : idx.toInt ≤ 0) : ResolvesStored target d idx := by
  intro s
  rw [str_of_nonpositive target d nonpositive]
  constructor
  · intro found
    cases found
  · intro found
    omega

theorem resolvesStored_native (d : Decoded) (idx : Int64) :
    ResolvesStored .native d idx := by
  by_cases positive : 0 < idx.toInt
  · rw [resolvesStored_iff_of_positive _ d positive]
    have small : idx.toInt.toNat < 2 ^ Target.native.usizeBits := by
      have := idx.toInt_lt
      simp only [Target.usizeBits]
      omega
    rw [Nat.mod_eq_of_lt small]
  · exact resolvesStored_of_nonpositive _ d (by omega)

theorem resolvesStored_wasm32_iff (d : Decoded) (idx : Int64) :
    ResolvesStored .wasm32 d idx ↔ Unaliased d.profile.stringTable idx := by
  by_cases positive : 0 < idx.toInt
  · rw [resolvesStored_iff_of_positive _ d positive]
    constructor
    · exact fun same _ => same
    · intro unaliased
      by_cases wide : 2 ^ 32 ≤ idx.toInt
      · exact unaliased wide
      · rw [Nat.mod_eq_of_lt (by simp only [Target.usizeBits]; omega)]
  · exact iff_of_true (resolvesStored_of_nonpositive _ d (by omega))
      (fun wide => by omega)

theorem str_native_eq_wasm32 {d : Decoded} {idx : Int64}
    (unaliased : Unaliased d.profile.stringTable idx) :
    str .native d idx = str .wasm32 d idx := by
  apply Option.ext
  intro s
  rw [resolvesStored_native d idx s,
    (resolvesStored_wasm32_iff d idx).mpr unaliased s]

section Views

variable {d : Decoded}
  (agree : ∀ idx ∈ d.profile.stringIndices, str .native d idx = str .wasm32 d idx)

include agree

theorem valueType_congr {vt : Proto.ValueType}
    (stored : ∀ idx ∈ vt.stringIndices, idx ∈ d.profile.stringIndices) :
    valueType .native d vt = valueType .wasm32 d vt := by
  simp only [valueType,
    agree vt.type (stored _ (by simp [Proto.ValueType.stringIndices])),
    agree vt.unit (stored _ (by simp [Proto.ValueType.stringIndices]))]

theorem labels_congr {sample : Proto.Sample} (member : sample ∈ d.profile.sample) :
    labels .native d sample = labels .wasm32 d sample := by
  have stored : ∀ lbl ∈ sample.label, ∀ idx ∈ lbl.stringIndices,
      str .native d idx = str .wasm32 d idx := by
    intro lbl lblMember idx idxMember
    apply agree
    simp only [Proto.Profile.stringIndices, List.mem_append, List.mem_flatMap]
    exact .inl (.inl (.inl (.inl (.inr ⟨sample, member, lbl, lblMember, idxMember⟩))))
  rw [labels, labels]
  apply List.foldl_ext
  intro out lbl lblMember
  have known := stored lbl lblMember
  simp only [Proto.Label.stringIndices, List.mem_cons, List.not_mem_nil, or_false,
    forall_eq_or_imp, forall_eq] at known
  simp only [labelKey, labelValue, known]

theorem functionRow_congr {f : Proto.Function} (member : f ∈ d.profile.function) :
    str .native d f.name = str .wasm32 d f.name ∧
    str .native d f.systemName = str .wasm32 d f.systemName ∧
    str .native d f.filename = str .wasm32 d f.filename := by
  have stored : ∀ idx ∈ f.stringIndices, str .native d idx = str .wasm32 d idx := by
    intro idx idxMember
    apply agree
    simp only [Proto.Profile.stringIndices, List.mem_append, List.mem_flatMap]
    exact .inl (.inl (.inl (.inr ⟨f, member, idxMember⟩)))
  simpa [Proto.Function.stringIndices] using stored

theorem lineFrame_congr (loc : Proto.Location) (line : Proto.Line) :
    lineFrame .native d loc line = lineFrame .wasm32 d loc line := by
  rw [lineFrame, lineFrame]
  cases d.fnById.get line.functionId with
  | none => rfl
  | some fi =>
      obtain ⟨name, -, filename⟩ :=
        functionRow_congr agree (List.get_mem d.profile.function fi)
      simp only [Option.map_some, Option.bind_some, name, filename]

theorem framesFor_congr (locationId : UInt64) (out : List Frame) :
    framesFor .native d locationId out = framesFor .wasm32 d locationId out := by
  simp only [framesFor, lineFrame_congr agree]

theorem stacks_congr : Decoded.stacks .native d = Decoded.stacks .wasm32 d := by
  apply List.mapIdx_eq_mapIdx_iff.mpr
  intro k bound
  have member := List.getElem_mem bound
  simp only [stackRow, labels_congr agree member, framesFor_congr agree]

theorem samples_congr : samples .native d = samples .wasm32 d := by
  apply List.mapIdx_eq_mapIdx_iff.mpr
  intro k bound
  have member := List.getElem_mem bound
  simp only [sampleRow, labels_congr agree member]

theorem functions_congr : functions .native d = functions .wasm32 d := by
  apply List.map_congr_left
  intro f member
  obtain ⟨name, systemName, filename⟩ := functionRow_congr agree member
  simp only [functionRow, name, systemName, filename]

theorem mappings_congr : mappings .native d = mappings .wasm32 d := by
  apply List.map_congr_left
  intro m member
  have stored : ∀ idx ∈ m.stringIndices, str .native d idx = str .wasm32 d idx := by
    intro idx idxMember
    apply agree
    simp only [Proto.Profile.stringIndices, List.mem_append, List.mem_flatMap]
    exact .inl (.inl (.inr ⟨m, member, idxMember⟩))
  simp only [Proto.Mapping.stringIndices, List.mem_cons, List.not_mem_nil, or_false,
    forall_eq_or_imp, forall_eq] at stored
  simp only [mappingRow, stored]

theorem metaRow_congr : metaRow .native d = metaRow .wasm32 d := by
  have sampleTypes : d.profile.sampleType.map (valueType .native d) =
      d.profile.sampleType.map (valueType .wasm32 d) := by
    apply List.map_congr_left
    intro vt member
    apply valueType_congr agree
    intro idx idxMember
    simp only [Proto.Profile.stringIndices, List.mem_append, List.mem_flatMap]
    exact .inl (.inl (.inl (.inl (.inl ⟨vt, member, idxMember⟩))))
  have periodType : d.profile.periodType.map (valueType .native d) =
      d.profile.periodType.map (valueType .wasm32 d) := by
    cases present : d.profile.periodType with
    | none => rfl
    | some vt =>
        refine congrArg some (valueType_congr agree ?_)
        intro idx idxMember
        simp only [Proto.Profile.stringIndices, present, List.mem_append,
          List.mem_flatMap, Option.toList_some, List.mem_singleton]
        exact .inl (.inr ⟨vt, rfl, idxMember⟩)
  have default := agree d.profile.defaultSampleType
    (by simp [Proto.Profile.stringIndices])
  simp only [metaRow, sampleTypes, periodType, default]

end Views

/-- The builds agree exactly on the profiles none of whose string indices wraps
onto another string when cut to 32 bits. -/
theorem targetsAgree_iff (d : Decoded) :
    TargetsAgree d ↔
      ∀ idx ∈ d.profile.stringIndices, Unaliased d.profile.stringTable idx := by
  constructor
  · intro agreed idx member
    exact (resolvesStored_wasm32_iff d idx).mp (agreed.resolves idx member .wasm32)
  · intro unaliased
    have agree : ∀ idx ∈ d.profile.stringIndices,
        str .native d idx = str .wasm32 d idx :=
      fun idx member => str_native_eq_wasm32 (unaliased idx member)
    exact {
      resolves := by
        intro idx member target
        cases target with
        | native => exact resolvesStored_native d idx
        | wasm32 =>
            exact (resolvesStored_wasm32_iff d idx).mpr (unaliased idx member)
      stackRows := stacks_congr agree
      samples := samples_congr agree
      functions := functions_congr agree
      mappings := mappings_congr agree
      metaRow := metaRow_congr agree }

/-- A function whose name index is `2 ^ 32 + 1`: unnamed natively, but the
browser build calls it after entry 1 of the table. -/
def wrappedName : Proto.Profile where
  function := [{ id := 1, name := 4294967297 }]
  stringTable := ["", "main"]

theorem wrappedName_not_targetsAgree : ¬ TargetsAgree (ofProfile wrappedName) := by
  intro agreed
  have native : functions .native (ofProfile wrappedName) =
      [⟨1, none, none, none, 0⟩] := by decide
  have wasm32 : functions .wasm32 (ofProfile wrappedName) =
      [⟨1, some "main", none, none, 0⟩] := by decide
  have same := agreed.functions
  rw [native, wasm32] at same
  exact absurd same (by decide)

end Decoded

end VgiPprof.Core
