import VgiPprof.Core.Join
import VgiPprof.Worker.ReadBack

namespace VgiPprof.Worker

open Arrow VgiPprof.Core Data
open ArrowBuild hiding size

/-! What a build does at any size. -/

/-- No panic, and no batch that reads back anything else. -/
def Safe (built : Run (Except RpcError RecordBatch)) (rows : List (List Value)) : Prop :=
  match built with
  | .error _ => False
  | .ok (.error _) => True
  | .ok (.ok batch) => batch.rows = rows

theorem TableFunction.safe_iff (target : Target) (table : TableFunction)
    (units : List DecodeUnit) :
    Safe (table.build target units table.outputSchema) (table.rows target units) ↔
      table.WithinLimits target units := by
  obtain ⟨ρ, flatten, columns, tabulates⟩ := table.tabulates target
  rw [tabulates.withinLimits_iff]
  constructor
  · intro safe
    cases built : (Vectors.ofRows (units.flatMap (entries flatten))
        (withTrailing columns)).build with
    | error panic =>
        rw [tabulates.build, buildTable, gather_eq, built] at safe
        exact safe.elim
    | ok arrays =>
        rw [tabulates.build_of_arrays built, tabulates.rows_eq] at safe
        exact Vectors.build_exact built ((rows_eq_iff built).mp safe)
  · intro fits
    obtain ⟨arrays, built, read⟩ := Vectors.build_ofRows fits
    rw [tabulates.build_of_arrays built, tabulates.rows_eq]
    exact (rows_eq_iff built).mpr read

def OffsetsExact (counts : List (Option Nat)) : Prop :=
  ∃ offsets nulls, offsetsAndNulls counts = .ok (offsets, nulls) ∧
    Steps (counts.map (·.getD 0)) offsets.offsets

/-- Offsets are exact, and builds are safe, just as far as 32 bits count. -/
theorem TableFunction.build_safe_iff (counts : List (Option Nat)) (target : Target)
    (table : TableFunction) (units : List DecodeUnit) :
    (OffsetsExact counts ↔ (counts.map (·.getD 0)).sum ≤ i32Max) ∧
      (Safe (table.build target units table.outputSchema) (table.rows target units) ↔
        table.WithinLimits target units) :=
  ⟨offsetsAndNulls_steps_iff counts, safe_iff target table units⟩

/-! A profile of one function, met `depth` times by one sample. -/

def recursiveProfile (name : String) (depth : Nat) : Proto.Profile where
  stringTable := ["", name]
  sample := [{ locationId := List.replicate depth 1 }]
  location := [{ id := 1, line := [{ functionId := 1 }] }]
  function := [{ id := 1, name := 1 }]

theorem stacks_recursiveProfile {name : String} (named : name ≠ "") (depth : Nat) :
    Decoded.stacks .native (.ofProfile (recursiveProfile name depth)) =
      [⟨1, [], [], List.replicate depth ⟨some name, none, some 0, 0⟩⟩] := by
  have kept : name.isEmpty = false := by simpa using named
  have nameResolved :
      (Decoded.ofProfile (recursiveProfile name depth)).str .native 1 = some name := by
    simp [Decoded.str, Decoded.ofProfile, recursiveProfile, Target.asUsize,
      Target.usizeBits, kept]
  have functions : (Decoded.ofProfile (recursiveProfile name depth)).functions .native =
      [⟨1, some name, none, none, 0⟩] := by
    rw [← nameResolved]
    rfl
  have expanded : Rows.expandLocation
      (Decoded.ofProfile (recursiveProfile name depth)).locations
      [⟨1, some name, none, none, 0⟩] 1 = [⟨some name, none, some 0, 0⟩] := rfl
  have frames := Decoded.stackRow_frames .native (.ofProfile (recursiveProfile name depth)) 0
    { locationId := List.replicate depth 1 }
  rw [functions, List.flatMap_replicate, expanded, List.flatten_replicate_singleton] at frames
  rw [← frames]
  rfl

theorem bytes_le_of_withinLimits {name : String} (named : name ≠ "") {depth : Nat}
    (limits : TableFunction.stacksTable.WithinLimits .native
      [⟨none, .ok (.ofProfile (recursiveProfile name depth))⟩]) :
    depth * name.utf8ByteSize ≤ i32Max := by
  have rows : TableFunction.stacksTable.rows .native
      [⟨none, .ok (.ofProfile (recursiveProfile name depth))⟩] =
        [[.int64 1, .list [], .map [], .list (List.replicate depth
          (.struct [.utf8 name, .null, .int64 0, .uint64 0])), .null, .null]] := by
    simp only [TableFunction.rows, TableFunction.unitRows, TableFunction.dataRows,
      stacks_recursiveProfile named, List.flatMap_cons, List.flatMap_nil]
    simp [stackValues, frameValue, Value.ofOption]
  rw [TableFunction.WithinLimits, rows] at limits
  apply limits
  simp [TableFunction.outputSchema, Stacks.outputSchema, schemaWithTrailing,
    trailingFields, commented, listFrameType, listI64Type, mapType, listField, structType,
    frameFields, mapEntriesField, mapEntryFields, Fields.ofList, DataType.loads,
    Fields.loads, Field.loads, Value.column, Value.elements, Value.bytes]

theorem utf8ByteSize_replicate (c : Char) (n : Nat) :
    (String.ofList (List.replicate n c)).utf8ByteSize =
      n * (String.singleton c).utf8ByteSize := by
  induction n with
  | zero => simp
  | succ n ih =>
      rw [List.replicate_succ, String.ofList_cons, String.utf8ByteSize_append, ih]
      grind

/-- A name of 64 KiB, 32768 frames deep: the names of the frames take `2 ^ 31` bytes. -/
def deepUnit : DecodeUnit :=
  ⟨none, .ok (.ofProfile (recursiveProfile (String.ofList (List.replicate 65536 'f')) 32768))⟩

theorem TableFunction.deepUnit_not_safe :
    ¬ Safe (stacksTable.build .native [deepUnit] stacksTable.outputSchema)
      (stacksTable.rows .native [deepUnit]) := by
  have size := utf8ByteSize_replicate 'f' 65536
  have letter : (String.singleton 'f').utf8ByteSize = 1 := by decide
  rw [letter] at size
  rw [safe_iff]
  intro limits
  have named : String.ofList (List.replicate 65536 'f') ≠ "" := by
    rw [ne_eq, ← String.utf8ByteSize_eq_zero_iff, size]
    decide
  have bound := bytes_le_of_withinLimits named limits
  rw [size] at bound
  exact absurd bound (by decide)

end VgiPprof.Worker
