import VgiPprof.Core.Decoded
import VgiPprof.Data.Loop

namespace VgiPprof.Core

open Data

/-! The pre-joined `stacks` view against the id-passthrough views: what a reader
gets by joining `samples`, `locations` and `functions` on their ids. -/

namespace Rows

def lineRefFrame (functions : List FunctionRow) (address : UInt64)
    (lineRef : LineRef) : Frame :=
  let named := lastWith (·.functionId) functions lineRef.functionId
  { function := named.bind (·.name)
    filename := named.bind (·.filename)
    line := some lineRef.line
    address := address }

/-- The frames of one location id, from the rows of `locations()` and
`functions()` alone. -/
def expandLocation (locations : List LocationRow) (functions : List FunctionRow)
    (locationId : UInt64) : List Frame :=
  match lastWith (·.locationId) locations locationId with
  | none => [⟨none, none, none, 0⟩]
  | some row =>
      if row.lines.isEmpty then [⟨none, none, none, row.address⟩]
      else row.lines.map (lineRefFrame functions row.address)

end Rows

namespace Decoded

theorem location_get (d : Decoded) (id : UInt64) :
    (d.locById.get id).map d.profile.location.get =
      lastWith (·.id) d.profile.location id := by
  rw [d.locById_eq, indexBy_get]

theorem function_get (d : Decoded) (id : UInt64) :
    (d.fnById.get id).map d.profile.function.get =
      lastWith (·.id) d.profile.function id := by
  rw [d.fnById_eq, indexBy_get]

variable (target : Target) (d : Decoded)

theorem lineFrame_eq (loc : Proto.Location) (line : Proto.Line) :
    lineFrame target d loc line =
      Rows.lineRefFrame (functions target d) loc.address
        ⟨line.functionId, line.line⟩ := by
  have named : lastWith (·.functionId) (functions target d) line.functionId =
      (lastWith (·.id) d.profile.function line.functionId).map
        (functionRow target d) := lastWith_map ..
  simp only [lineFrame, Rows.lineRefFrame, function_get, named]
  cases lastWith (·.id) d.profile.function line.functionId <;> rfl

theorem framesFor_eq (locationId : UInt64) (out : List Frame) :
    framesFor target d locationId out =
      out ++ Rows.expandLocation (locations d) (functions target d) locationId := by
  have row : lastWith (·.locationId) (locations d) locationId =
      (lastWith (·.id) d.profile.location locationId).map locationRow :=
    lastWith_map ..
  rw [Rows.expandLocation, row, ← location_get, framesFor]
  cases d.locById.get locationId with
  | none => rfl
  | some li =>
      simp only [Option.map_some, locationRow, List.isEmpty_map,
        foldl_push]
      split
      · rfl
      · rw [List.map_map]
        congr 1
        apply List.map_congr_left
        intro line _
        exact lineFrame_eq target d _ line

theorem stackRow_frames (i : Nat) (sample : Proto.Sample) :
    (stackRow target d i sample).frames =
      sample.locationId.flatMap
        (Rows.expandLocation (locations d) (functions target d)) := by
  simp only [stackRow, framesFor_eq, foldl_extend, List.nil_append]

theorem sampleId_toInt {i : Nat} (bound : i + 1 < 2 ^ 63) :
    (Int64.ofNat i + 1).toInt = i + 1 := by
  have sum : Int64.ofNat i + 1 = Int64.ofNat (i + 1) := by
    rw [Int64.ofNat_add]
    rfl
  rw [sum, Int64.toInt_ofNat_of_lt bound]
  rfl

/-- The pre-joined view is the join of the raw views, row by row. -/
theorem stacks_eq_join :
    (Decoded.stacks target d).length = (samples target d).length ∧
    ∀ (k : Nat) (stack : StackRow) (sample : SampleRow),
      (Decoded.stacks target d)[k]? = some stack →
      (samples target d)[k]? = some sample →
      stack.sampleId = sample.sampleId ∧
      sample.sampleId = Int64.ofNat (k + 1) ∧
      (k + 1 < 2 ^ 63 → sample.sampleId.toInt = k + 1) ∧
      stack.value = sample.value ∧
      stack.labels = sample.labels ∧
      stack.frames = sample.locationIds.flatMap
        (Rows.expandLocation (locations d) (functions target d)) := by
  constructor
  · simp [Decoded.stacks, samples]
  · intro k stack sample stackAt sampleAt
    simp only [Decoded.stacks, samples, List.getElem?_mapIdx, Option.map_eq_some_iff]
      at stackAt sampleAt
    obtain ⟨source, sourceAt, rfl⟩ := stackAt
    obtain ⟨source', sourceAt', rfl⟩ := sampleAt
    obtain rfl : source = source' :=
      Option.some.inj (sourceAt.symm.trans sourceAt')
    refine ⟨rfl, ?_, sampleId_toInt, rfl, rfl, stackRow_frames target d k source⟩
    change Int64.ofNat k + 1 = Int64.ofNat (k + 1)
    rw [Int64.ofNat_add]
    rfl

end Decoded

end VgiPprof.Core
