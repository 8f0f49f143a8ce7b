import VgiPprof.Core.Labels
import VgiPprof.Worker.ReadBack

namespace VgiPprof.Worker

open Arrow VgiPprof.Core Data
open ArrowBuild hiding size

/-! What stands in the cells of a batch. -/

def fieldName : Field → String
  | .new name _ _ => name

def text? : Value → Option String
  | .utf8 text => some text
  | _ => none

def int64? : Value → Option Int64
  | .int64 value => some value
  | _ => none

theorem text?_ofOption (text : Option String) : text? (.ofOption .utf8 text) = text := by
  cases text <;> rfl

namespace TableFunction

/-- The cell of a row under a column's name. -/
def cell (table : TableFunction) (name : String) (row : List Value) : Value :=
  row.getD ((table.outputSchema.map fieldName).idxOf name) .null

variable {target : Target} {table : TableFunction}

theorem columnIndex_file (table : TableFunction) :
    (table.outputSchema.map fieldName).idxOf "file" = table.dataWidth := by
  cases table <;> decide

theorem length_of_mem_dataRows {d : Decoded} {data : List Value}
    (member : data ∈ dataRows target table d) : data.length = table.dataWidth := by
  cases table with
  | stacksTable | samplesTable | functionsTable | locationsTable | mappingsTable =>
      obtain ⟨row, -, rfl⟩ := List.mem_map.mp member
      rfl
  | metaTable =>
      cases List.mem_singleton.mp member
      rfl

/-- Every row says which source it came from. -/
theorem cell_file {unit : DecodeUnit} {row : List Value}
    (member : row ∈ table.unitRows target unit) :
    table.cell "file" row = .ofOption .utf8 unit.file := by
  rw [cell, columnIndex_file]
  unfold unitRows at member
  cases result : unit.result with
  | ok d =>
      rw [result] at member
      obtain ⟨data, isData, rfl⟩ := List.mem_map.mp member
      rw [← length_of_mem_dataRows isData]
      simp
  | error msg =>
      rw [result] at member
      cases List.mem_singleton.mp member
      simp

end TableFunction

/-- A cell whose maps, at every depth, are ones a MAP column may hold: entries of a key
and a value, no key NULL and none repeated. -/
inductive WellKeyed : Value → Prop
  | null : WellKeyed .null
  | int64 (value : Int64) : WellKeyed (.int64 value)
  | uint64 (value : UInt64) : WellKeyed (.uint64 value)
  | utf8 (value : String) : WellKeyed (.utf8 value)
  | struct {columns : List Value} (each : ∀ column ∈ columns, WellKeyed column) :
      WellKeyed (.struct columns)
  | list {elements : List Value} (each : ∀ element ∈ elements, WellKeyed element) :
      WellKeyed (.list elements)
  | map {pairs : List (Value × Value)} (keys : ∀ pair ∈ pairs, pair.1 ≠ .null)
      (distinct : (pairs.map Prod.fst).Nodup)
      (values : ∀ pair ∈ pairs, WellKeyed pair.2) :
      WellKeyed (.map (pairs.map fun pair => .struct [pair.1, pair.2]))

theorem WellKeyed.ofOption {α : Type} {encode : α → Value}
    (each : ∀ value : α, WellKeyed (encode value)) (value : Option α) :
    WellKeyed (.ofOption encode value) := by
  cases value with
  | none => exact .null
  | some value => exact each value

theorem WellKeyed.listOf {α : Type} {encode : α → Value}
    (each : ∀ value : α, WellKeyed (encode value)) (values : List α) :
    WellKeyed (.list (values.map encode)) := by
  refine .list fun element member => ?_
  obtain ⟨value, -, rfl⟩ := List.mem_map.mp member
  exact each value

theorem WellKeyed.labels (target : Target) (d : Decoded) (sample : Proto.Sample) :
    WellKeyed (.map ((d.labels target sample).map pairValue)) := by
  have entries : (d.labels target sample).map pairValue =
      ((d.labels target sample).map fun pair => (Value.utf8 pair.1, Value.utf8 pair.2)).map
        fun pair => .struct [pair.1, pair.2] := by
    rw [List.map_map]
    rfl
  rw [entries]
  refine .map ?_ ?_ ?_
  · intro pair member
    obtain ⟨label, -, rfl⟩ := List.mem_map.mp member
    exact nofun
  · have keys := (Decoded.labels_keys_nodup target d sample).map fun _ _ same =>
      Value.utf8.inj same
    rw [List.map_map] at keys ⊢
    exact keys
  · intro pair member
    obtain ⟨label, -, rfl⟩ := List.mem_map.mp member
    exact .utf8 label.2

/-! The rows of each table, cell by cell. -/

theorem wellKeyed_pair {first second : Value} (firstKeyed : WellKeyed first)
    (secondKeyed : WellKeyed second) : ∀ cell ∈ [first, second], WellKeyed cell :=
  List.forall_mem_cons.mpr ⟨firstKeyed, List.forall_mem_singleton.mpr secondKeyed⟩

theorem wellKeyed_frame (fr : Frame) : WellKeyed (frameValue fr) := by
  refine .struct ?_
  simp only [List.forall_mem_cons]
  exact ⟨.ofOption .utf8 fr.function, .ofOption .utf8 fr.filename,
    .ofOption .int64 fr.line, .uint64 fr.address, List.forall_mem_nil _⟩

theorem wellKeyed_lineref (lr : LineRef) : WellKeyed (linerefValue lr) :=
  .struct (wellKeyed_pair (.uint64 lr.functionId) (.int64 lr.line))

theorem wellKeyed_valueType (vt : Core.ValueType) : WellKeyed (valueTypeValue vt) :=
  .struct (wellKeyed_pair (.utf8 vt.type) (.utf8 vt.unit))

theorem wellKeyed_dataRows (target : Target) (table : TableFunction) (d : Decoded) :
    ∀ row ∈ TableFunction.dataRows target table d, ∀ cell ∈ row, WellKeyed cell := by
  intro row member
  cases table with
  | stacksTable =>
      obtain ⟨s, isStack, rfl⟩ := List.mem_map.mp member
      obtain ⟨i, bound, rfl⟩ := List.mem_mapIdx.mp isStack
      simp only [stackValues, List.forall_mem_cons]
      exact ⟨.int64 _, .listOf .int64 _, .labels target d _, .listOf wellKeyed_frame _,
        List.forall_mem_nil _⟩
  | samplesTable =>
      obtain ⟨s, isSample, rfl⟩ := List.mem_map.mp member
      obtain ⟨i, bound, rfl⟩ := List.mem_mapIdx.mp isSample
      simp only [sampleValues, List.forall_mem_cons]
      exact ⟨.int64 _, .listOf .uint64 _, .listOf .int64 _, .labels target d _,
        List.forall_mem_nil _⟩
  | functionsTable =>
      obtain ⟨f, -, rfl⟩ := List.mem_map.mp member
      simp only [functionValues, List.forall_mem_cons]
      exact ⟨.uint64 _, .ofOption .utf8 _, .ofOption .utf8 _, .ofOption .utf8 _, .int64 _,
        List.forall_mem_nil _⟩
  | locationsTable =>
      obtain ⟨l, -, rfl⟩ := List.mem_map.mp member
      simp only [locationValues, List.forall_mem_cons]
      exact ⟨.uint64 _, .uint64 _, .uint64 _, .listOf wellKeyed_lineref _,
        List.forall_mem_nil _⟩
  | mappingsTable =>
      obtain ⟨m, -, rfl⟩ := List.mem_map.mp member
      simp only [mappingValues, List.forall_mem_cons]
      exact ⟨.uint64 _, .uint64 _, .uint64 _, .uint64 _, .ofOption .utf8 _,
        .ofOption .utf8 _, List.forall_mem_nil _⟩
  | metaTable =>
      cases List.mem_singleton.mp member
      simp only [metaValues, List.forall_mem_cons]
      exact ⟨.listOf wellKeyed_valueType _, .int64 _, .ofOption wellKeyed_valueType _,
        .int64 _, .int64 _, .ofOption .utf8 _, List.forall_mem_nil _⟩

theorem wellKeyed_unitRows (target : Target) (table : TableFunction) (unit : DecodeUnit) :
    ∀ row ∈ table.unitRows target unit, ∀ cell ∈ row, WellKeyed cell := by
  intro row member
  unfold TableFunction.unitRows at member
  cases result : unit.result with
  | ok d =>
      rw [result] at member
      obtain ⟨data, isData, rfl⟩ := List.mem_map.mp member
      refine List.forall_mem_append.mpr ⟨wellKeyed_dataRows target table d data isData, ?_⟩
      exact wellKeyed_pair (.ofOption .utf8 unit.file) .null
  | error msg =>
      rw [result] at member
      cases List.mem_singleton.mp member
      refine List.forall_mem_append.mpr ⟨?_, ?_⟩
      · intro cell isBlank
        rw [(List.mem_replicate.mp isBlank).2]
        exact .null
      · exact wellKeyed_pair (.ofOption .utf8 unit.file) (.utf8 msg)

/-- No batch of any table holds a map with a NULL or a repeated key, whatever labels
the profiles carry. -/
theorem build_wellKeyed (target : Target) (table : TableFunction) (units : List DecodeUnit)
    (limits : table.WithinLimits target units) :
    ∃ batch, table.build target units table.outputSchema = .ok (.ok batch) ∧
      ∀ row ∈ batch.rows, ∀ cell ∈ row, WellKeyed cell := by
  obtain ⟨batch, built, rows, -⟩ := table.build_of_withinLimits target units limits
  refine ⟨batch, built, fun row member => ?_⟩
  rw [rows] at member
  obtain ⟨unit, -, inUnit⟩ := List.mem_flatMap.mp member
  exact wellKeyed_unitRows target table unit row inUnit

/-- The labels of one sample: two that resolve to one key, and one that resolves to none. -/
def repeatedLabels : List DecodeUnit :=
  [⟨none, .ok (.ofProfile
    { stringTable := ["", "thread", "thread"]
      sample := [{ label := [⟨1, 0, 7, 0⟩, ⟨2, 0, 8, 0⟩, ⟨9, 0, 9, 0⟩] }] })⟩]

theorem build_wellKeyed_repeatedLabels :
    ∃ batch, TableFunction.stacksTable.build .native repeatedLabels Stacks.outputSchema =
        .ok (.ok batch) ∧ ∀ row ∈ batch.rows, ∀ cell ∈ row, WellKeyed cell :=
  build_wellKeyed .native .stacksTable repeatedLabels (by decide)

end VgiPprof.Worker
