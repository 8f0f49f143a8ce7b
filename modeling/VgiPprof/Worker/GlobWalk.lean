import Mathlib.Data.List.ReduceOption
import VgiPprof.Worker.Isolation

namespace VgiPprof.Worker

open VgiPprof.Core Data

/-! What becomes of the entries of a glob walk. -/

namespace Source

variable {args : Arguments} {pos : Nat} {spec : String} {walk : List (Option OsPath)}
variable (codec : Codec) (fs : FileSystem)

/-- Reading and decoding the file at a path, whatever the bytes of its name. -/
def decodeAt (path : OsPath) : Except String Decoded := do
  let bytes ← (fs.read path).mapError fun e =>
    "read " ++ Utf8.toStringLossy path ++ ": " ++ e.message
  decodeBytes codec bytes

def Reports (entry : Option OsPath) (unit : DecodeUnit) : Prop :=
  match entry with
  | some path =>
      unit.file = some (Utf8.toStringLossy path) ∧ unit.result = decodeAt codec fs path
  | none => unit.file.isSome = true ∧ ∃ message, unit.result = .error message

/-! A file under its own name and under the name shown for it. -/

theorem decodeFile_encoded (name : String) :
    decodeFile codec fs (Utf8.toStringLossy (Utf8.encode name)) =
      decodeAt codec fs (Utf8.encode name) := by
  rw [decodeAt, Utf8.toStringLossy_encode]
  rfl

theorem reports_fileUnit_iff (path : OsPath) :
    Reports codec fs (some path) (fileUnit codec fs (Utf8.toStringLossy path)) ↔
      decodeFile codec fs (Utf8.toStringLossy path) = decodeAt codec fs path :=
  and_iff_right rfl

/-- A machine that answers for one path differently than for all others. -/
def refusing (path : OsPath) (walk : List (Option OsPath)) : FileSystem where
  read other :=
    if other = path then .error ⟨"Permission denied (os error 13)"⟩
    else .error ⟨"No such file or directory (os error 2)"⟩
  glob _ := some walk

theorem encode_shown_of_reports {path : OsPath}
    (same : decodeFile codec (refusing path walk) (Utf8.toStringLossy path) =
      decodeAt codec (refusing path walk) path) :
    Utf8.encode (Utf8.toStringLossy path) = path := by
  by_contra elsewhere
  have here : (refusing path walk).read path =
      .error ⟨"Permission denied (os error 13)"⟩ := if_pos rfl
  have there : (refusing path walk).read (Utf8.encode (Utf8.toStringLossy path)) =
      .error ⟨"No such file or directory (os error 2)"⟩ := if_neg elsewhere
  rw [decodeFile, decodeAt, here, there] at same
  have messages := Except.error.inj same
  rw [String.append_right_inj] at messages
  exact absurd messages (by decide)

/-! The names a walk expands to. -/

def shownLe (path other : OsPath) : Bool :=
  decide (Utf8.toStringLossy path ≤ Utf8.toStringLossy other)

/-- What is read of a walk, in reading order. -/
def readPaths (walk : List (Option OsPath)) : List OsPath :=
  walk.reduceOption.mergeSort shownLe

theorem readPaths_perm (walk : List (Option OsPath)) :
    (readPaths walk).Perm walk.reduceOption :=
  List.mergeSort_perm walk.reduceOption shownLe

theorem expand_of_walk (wildcard : isGlob spec = true) (walked : fs.glob spec = some walk) :
    expand fs spec = (readPaths walk).map Utf8.toStringLossy := by
  have sorted : (readPaths walk).map Utf8.toStringLossy =
      (walk.reduceOption.map Utf8.toStringLossy).mergeSort fun a b => decide (a ≤ b) :=
    List.map_mergeSort fun _ _ _ _ => rfl
  rw [expand, if_pos wildcard, walked, sorted]
  rfl

def walkUnits (walk : List (Option OsPath)) : List DecodeUnit :=
  (readPaths walk).map fun path => fileUnit codec fs (Utf8.toStringLossy path)

theorem resolve_of_walk (found : pathSpecs args pos = .ok (some [spec]))
    (wildcard : isGlob spec = true) (walked : fs.glob spec = some walk) :
    resolve codec fs args pos = .ok (walkUnits codec fs walk) := by
  rw [resolve_of_specs codec fs found, List.flatMap_singleton,
    expand_of_walk fs wildcard walked, List.map_map]
  rfl

/-! Every entry of a walk has its own unit, and there are no others. -/

def Reported (walk : List (Option OsPath)) (units : List DecodeUnit) : Prop :=
  ∃ arranged : List (Option OsPath),
    arranged.Perm walk ∧ List.Forall₂ (Reports codec fs) arranged units

theorem reduceOption_map_some {α : Type} (xs : List α) :
    (xs.map some).reduceOption = xs := by
  rw [List.reduceOption, List.filterMap_map]
  exact List.filterMap_some

theorem map_some_reduceOption (readable : ∀ entry ∈ walk, entry.isSome = true) :
    walk.reduceOption.map some = walk := by
  induction walk with
  | nil => rfl
  | cons entry walk induction =>
      obtain ⟨path, rfl⟩ := Option.isSome_iff_exists.mp (readable entry List.mem_cons_self)
      rw [List.reduceOption_cons_of_some, List.map_cons,
        induction fun other member => readable other (List.mem_cons_of_mem _ member)]

theorem reported_of_reads
    (reads : ∀ entry ∈ walk, ∃ path, entry = some path ∧
      decodeFile codec fs (Utf8.toStringLossy path) = decodeAt codec fs path) :
    Reported codec fs walk (walkUnits codec fs walk) := by
  have readable : ∀ entry ∈ walk, entry.isSome = true := by
    intro entry member
    obtain ⟨path, rfl, -⟩ := reads entry member
    rfl
  refine ⟨(readPaths walk).map some, ?_, ?_⟩
  · have permuted := (readPaths_perm walk).map some
    rwa [map_some_reduceOption readable] at permuted
  · rw [walkUnits, List.forall₂_map_left_iff, List.forall₂_map_right_iff]
    refine List.forall₂_same.mpr fun path member => ?_
    rw [reports_fileUnit_iff]
    have walked := List.reduceOption_mem_iff.mp ((readPaths_perm walk).mem_iff.mp member)
    obtain ⟨_, same, alike⟩ := reads _ walked
    cases same
    exact alike

/-- A walk with an unreadable place has more entries than units. -/
theorem Reported.isSome (reported : Reported codec fs walk (walkUnits codec fs walk)) :
    ∀ entry ∈ walk, entry.isSome = true := by
  obtain ⟨arranged, permuted, units⟩ := reported
  have counted := units.length_eq
  rw [walkUnits, List.length_map, (readPaths_perm walk).length_eq,
    permuted.length_eq] at counted
  exact List.reduceOption_length_eq_iff.mp counted.symm

theorem reads_of_reported
    (reported : Reported codec fs walk (walkUnits codec fs walk)) {path : OsPath}
    (member : some path ∈ walk) :
    decodeFile codec fs (Utf8.toStringLossy path) = decodeAt codec fs path := by
  obtain ⟨arranged, permuted, units⟩ := reported
  obtain ⟨unit, unitMember, reports⟩ :
      ∃ unit ∈ walkUnits codec fs walk, Reports codec fs (some path) unit := by
    obtain ⟨i, bound, here⟩ := List.getElem_of_mem (permuted.mem_iff.mpr member)
    refine ⟨_, List.get_mem _ ⟨i, units.length_eq ▸ bound⟩, ?_⟩
    rw [← here]
    exact units.get bound (units.length_eq ▸ bound)
  obtain ⟨other, -, rfl⟩ := List.mem_map.mp unitMember
  have label : Utf8.toStringLossy other = Utf8.toStringLossy path :=
    Option.some.inj reports.1
  rw [label, reports_fileUnit_iff] at reports
  exact reports

/-- A walk is reported whole, whatever its files hold, just when it met no unreadable
place and only names that are text. -/
theorem walk_reported_iff (found : pathSpecs args pos = .ok (some [spec]))
    (wildcard : isGlob spec = true) :
    (∀ fs : FileSystem, fs.glob spec = some walk →
      ∃ units, resolve codec fs args pos = .ok units ∧ Reported codec fs walk units) ↔
      ∀ entry ∈ walk, ∃ name, entry = some (Utf8.encode name) := by
  constructor
  · intro always entry member
    have reported (path : OsPath) : Reported codec (refusing path walk) walk
        (walkUnits codec (refusing path walk) walk) := by
      obtain ⟨units, resolved, reported⟩ := always (refusing path walk) rfl
      rw [resolve_of_walk codec _ found wildcard rfl] at resolved
      cases resolved
      exact reported
    obtain ⟨path, rfl⟩ := Option.isSome_iff_exists.mp
      ((reported []).isSome codec _ entry member)
    have shown := reads_of_reported codec _ (reported path) member
    exact ⟨_, congrArg some (encode_shown_of_reports codec shown).symm⟩
  · intro named fs walked
    refine ⟨_, resolve_of_walk codec fs found wildcard walked, reported_of_reads codec fs ?_⟩
    intro entry member
    obtain ⟨name, rfl⟩ := named entry member
    exact ⟨_, rfl, decodeFile_encoded codec fs name⟩

def varcharArg (path : String) : Arguments where
  constStr pos := if pos = 0 then some path else none
  arg _ := none

/-! A walk below two directories, one that cannot be read and one whose name is no
text. -/

/-- The byte `ff`, and `/x.pb`. -/
def rawPath : OsPath := [0xff, 0x2f, 0x78, 0x2e, 0x70, 0x62]

def rawFiles : FileSystem where
  read path :=
    if path = rawPath then .ok [0x12, 0x02, 0x10, 0x05]
    else .error ⟨"No such file or directory (os error 2)"⟩
  glob spec := if spec = "**/x.pb" then some [none, some rawPath] else some []

theorem walk_unreported :
    pathSpecs (varcharArg "**/x.pb") 0 = .ok (some ["**/x.pb"]) ∧
      isGlob "**/x.pb" = true ∧
      rawFiles.glob "**/x.pb" = some [none, some rawPath] ∧
      decodeAt plainCodec rawFiles rawPath =
        .ok (.ofProfile { sample := [{ value := [5] }] }) ∧
      resolve plainCodec rawFiles (varcharArg "**/x.pb") 0 =
        .ok [⟨some "\uFFFD/x.pb",
          .error "read \uFFFD/x.pb: No such file or directory (os error 2)"⟩] ∧
      ¬ ∃ units, resolve plainCodec rawFiles (varcharArg "**/x.pb") 0 = .ok units ∧
        Reported plainCodec rawFiles [none, some rawPath] units := by
  have resolved : resolve plainCodec rawFiles (varcharArg "**/x.pb") 0 =
      .ok (walkUnits plainCodec rawFiles [none, some rawPath]) :=
    resolve_of_walk plainCodec rawFiles rfl (by decide) rfl
  refine ⟨rfl, by decide, rfl, rfl, ?_, ?_⟩
  · rw [resolved, walkUnits, readPaths, List.reduceOption_cons_of_none,
      List.reduceOption_cons_of_some, List.reduceOption_nil, List.mergeSort_singleton]
    rfl
  · rintro ⟨units, same, reported⟩
    rw [resolved] at same
    cases same
    cases reported.isSome plainCodec rawFiles none (by decide)

/-- Walked directory by directory, `a/b.pb` comes before `a-b.pb`. -/
def nestedFiles : FileSystem where
  read path :=
    if path = Utf8.encode "a/b.pb" then .ok [0x12, 0x02, 0x10, 0x05]
    else if path = Utf8.encode "a-b.pb" then .ok [0x48, 0x07]
    else .error ⟨"No such file or directory (os error 2)"⟩
  glob spec :=
    if spec = "**/*.pb" then
      some [some (Utf8.encode "a/b.pb"), some (Utf8.encode "a-b.pb")]
    else some []

theorem expand_nestedFiles : expand nestedFiles "**/*.pb" = ["a-b.pb", "a/b.pb"] := by
  have ordered : ¬ "a/b.pb" ≤ "a-b.pb" := by decide
  rw [expand_of_walk nestedFiles (by decide) rfl, readPaths]
  simp [List.mergeSort, List.MergeSort.Internal.splitInTwo, shownLe,
    Utf8.toStringLossy_encode, ordered]

def nestedUnits : List DecodeUnit :=
  [⟨some "a-b.pb", .ok (.ofProfile { timeNanos := 7 })⟩,
    ⟨some "a/b.pb", .ok (.ofProfile { sample := [{ value := [5] }] })⟩]

theorem walk_reported_nestedFiles :
    resolve plainCodec nestedFiles (varcharArg "**/*.pb") 0 = .ok nestedUnits ∧
      Reported plainCodec nestedFiles
        [some (Utf8.encode "a/b.pb"), some (Utf8.encode "a-b.pb")] nestedUnits := by
  have resolved : resolve plainCodec nestedFiles (varcharArg "**/*.pb") 0 =
      .ok nestedUnits := by
    rw [resolve_of_specs plainCodec nestedFiles rfl, List.flatMap_singleton,
      expand_nestedFiles]
    rfl
  obtain ⟨units, same, reported⟩ :
      ∃ units, resolve plainCodec nestedFiles (varcharArg "**/*.pb") 0 = .ok units ∧
        Reported plainCodec nestedFiles
          [some (Utf8.encode "a/b.pb"), some (Utf8.encode "a-b.pb")] units := by
    refine (walk_reported_iff plainCodec rfl (by decide)).mpr ?_ nestedFiles rfl
    rintro entry (_ | ⟨_, _ | ⟨_, _ | _⟩⟩)
    · exact ⟨"a/b.pb", rfl⟩
    · exact ⟨"a-b.pb", rfl⟩
  cases resolved.symm.trans same
  exact ⟨resolved, reported⟩

end Source

end VgiPprof.Worker
