import VgiPprof.Worker.Table

namespace VgiPprof.Worker

open Arrow VgiPprof.Core Data
open ArrowBuild hiding size

/-! Reading a built batch back. -/

/-! The rows a table is for, written out field by field. -/

def pairValue (pair : String × String) : Value :=
  .struct [.utf8 pair.1, .utf8 pair.2]

def frameValue (fr : Frame) : Value :=
  .struct [.ofOption .utf8 fr.function, .ofOption .utf8 fr.filename,
    .ofOption .int64 fr.line, .uint64 fr.address]

def linerefValue (lr : LineRef) : Value :=
  .struct [.uint64 lr.functionId, .int64 lr.line]

def stackValues (s : StackRow) : List Value :=
  [.int64 s.sampleId, .list (s.value.map .int64), .map (s.labels.map pairValue),
    .list (s.frames.map frameValue)]

def sampleValues (s : SampleRow) : List Value :=
  [.int64 s.sampleId, .list (s.locationIds.map .uint64), .list (s.value.map .int64),
    .map (s.labels.map pairValue)]

def functionValues (f : FunctionRow) : List Value :=
  [.uint64 f.functionId, .ofOption .utf8 f.name, .ofOption .utf8 f.systemName,
    .ofOption .utf8 f.filename, .int64 f.startLine]

def locationValues (l : LocationRow) : List Value :=
  [.uint64 l.locationId, .uint64 l.address, .uint64 l.mappingId,
    .list (l.lines.map linerefValue)]

def mappingValues (m : MappingRow) : List Value :=
  [.uint64 m.mappingId, .uint64 m.memoryStart, .uint64 m.memoryLimit,
    .uint64 m.fileOffset, .ofOption .utf8 m.filename, .ofOption .utf8 m.buildId]

def metaValues (m : Meta) : List Value :=
  [.list (m.sampleTypes.map valueTypeValue), .int64 m.period,
    .ofOption valueTypeValue m.periodType, .int64 m.durationNanos, .int64 m.timeNanos,
    .ofOption .utf8 m.defaultSampleType]

namespace TableFunction

variable (target : Target) (table : TableFunction)

def dataRows : TableFunction → Decoded → List (List Value)
  | stacksTable, d => (d.stacks target).map stackValues
  | samplesTable, d => (d.samples target).map sampleValues
  | functionsTable, d => (d.functions target).map functionValues
  | locationsTable, d => d.locations.map locationValues
  | mappingsTable, d => (d.mappings target).map mappingValues
  | metaTable, d => [metaValues (d.metaRow target)]

def dataWidth : Nat :=
  table.outputSchema.length - 2

/-- The rows of one unit: those of its profile, or a single error row. -/
def unitRows (unit : DecodeUnit) : List (List Value) :=
  match unit.result with
  | .ok d => (dataRows target table d).map fun row =>
      row ++ [.ofOption .utf8 unit.file, .null]
  | .error msg =>
      [List.replicate table.dataWidth .null ++ [.ofOption .utf8 unit.file, .utf8 msg]]

def rows (units : List DecodeUnit) : List (List Value) :=
  units.flatMap (unitRows target table)

/-- The elements of every list and map column, and the bytes of every string
column, are few enough for 32-bit offsets. -/
def WithinLimits (units : List DecodeUnit) : Prop :=
  Fits (.struct (.ofList table.outputSchema)) ((rows target table units).map .struct)

instance (units : List DecodeUnit) : Decidable (WithinLimits target table units) :=
  inferInstanceAs (Decidable (Fits _ _))

structure Tabulates {ρ : Type} (flatten : Decoded → List ρ) (columns : List (Column ρ)) :
    Prop where
  build : table.build target = buildTable flatten columns
  gathered : ∀ units, table.gathered target units = (gather flatten columns units).rows
  rows : ∀ d, dataRows target table d =
    (flatten d).map fun row => columns.map fun column => column.value row
  width : table.dataWidth = columns.length
  declares : Declares table.outputSchema (withTrailing columns)

theorem tabulates : ∃ (ρ : Type) (flatten : Decoded → List ρ) (columns : List (Column ρ)),
    Tabulates target table flatten columns := by
  cases table with
  | stacksTable => exact ⟨_, _, _, rfl, fun _ => rfl, fun _ => rfl, rfl, rfl, by decide⟩
  | samplesTable => exact ⟨_, _, _, rfl, fun _ => rfl, fun _ => rfl, rfl, rfl, by decide⟩
  | functionsTable => exact ⟨_, _, _, rfl, fun _ => rfl, fun _ => rfl, rfl, rfl, by decide⟩
  | locationsTable => exact ⟨_, _, _, rfl, fun _ => rfl, fun _ => rfl, rfl, rfl, by decide⟩
  | mappingsTable => exact ⟨_, _, _, rfl, fun _ => rfl, fun _ => rfl, rfl, rfl, by decide⟩
  | metaTable => exact ⟨_, _, _, rfl, fun _ => rfl, fun _ => rfl, rfl, rfl, by decide⟩

end TableFunction

/-! What the push loop gathers. -/

section Gather

variable {ρ : Type} (flatten : Decoded → List ρ)

def entries (unit : DecodeUnit) : List (Entry ρ) :=
  match unit.result with
  | .ok decoded => (flatten decoded).map fun s => ⟨some s, unit.file, none⟩
  | .error msg => [⟨none, unit.file, some msg⟩]

theorem pushUnit_eq_foldl {columns : List (Column (Entry ρ))} (vectors : Vectors columns)
    (unit : DecodeUnit) :
    pushUnit flatten vectors unit = (entries flatten unit).foldl Vectors.push vectors := by
  unfold pushUnit entries
  cases unit.result with
  | ok decoded =>
      rw [List.foldl_map]
  | error msg => rfl

theorem foldl_pushUnit (units : List DecodeUnit) (done : List (Entry ρ))
    (columns : List (Column (Entry ρ))) :
    units.foldl (pushUnit flatten) (Vectors.ofRows done columns) =
      Vectors.ofRows (done ++ units.flatMap (entries flatten)) columns := by
  induction units generalizing done with
  | nil => rw [List.foldl_nil, List.flatMap_nil, List.append_nil]
  | cons unit units ih =>
      rw [List.foldl_cons, pushUnit_eq_foldl, Vectors.foldl_push_ofRows, ih,
        List.flatMap_cons, List.append_assoc]

theorem gather_eq (columns : List (Column ρ)) (units : List DecodeUnit) :
    gather flatten columns units =
      Vectors.ofRows (units.flatMap (entries flatten)) (withTrailing columns) := by
  rw [gather, Vectors.empty_eq_ofRows, foldl_pushUnit, List.nil_append]

end Gather

namespace TableFunction.Tabulates

variable {target : Target} {table : TableFunction} {ρ : Type}
  {flatten : Decoded → List ρ} {columns : List (Column ρ)}

theorem unitRows_eq (tabulates : Tabulates target table flatten columns)
    (unit : DecodeUnit) :
    unitRows target table unit = (entries flatten unit).map fun entry =>
      (withTrailing columns).map fun column => column.value entry := by
  unfold unitRows entries
  cases unit.result with
  | ok decoded =>
      simp only [tabulates.rows, List.map_map]
      apply List.map_congr_left
      intro row _
      simp only [withTrailing, Function.comp_apply, List.map_append, List.map_map]
      rfl
  | error msg =>
      have blank : (columns.map dataColumn).map (fun column =>
          column.value ⟨none, unit.file, some msg⟩) =
            List.replicate columns.length .null := by
        rw [List.map_map]
        exact List.map_const'
      rw [tabulates.width, List.map_singleton, withTrailing, List.map_append, blank]
      rfl

theorem rows_eq (tabulates : Tabulates target table flatten columns)
    (units : List DecodeUnit) :
    table.rows target units = (units.flatMap (entries flatten)).map fun entry =>
      (withTrailing columns).map fun column => column.value entry := by
  rw [TableFunction.rows, List.map_flatMap]
  exact List.flatMap_congr fun unit _ => tabulates.unitRows_eq unit

theorem gathered_eq (tabulates : Tabulates target table flatten columns)
    (units : List DecodeUnit) : table.gathered target units = table.rows target units := by
  rw [tabulates.gathered, tabulates.rows_eq, gather_eq]
  exact Vectors.rows_ofRows _ (by simp [withTrailing, trailingColumns])

theorem withinLimits_iff (tabulates : Tabulates target table flatten columns)
    (units : List DecodeUnit) :
    table.WithinLimits target units ↔ ∀ column ∈ withTrailing columns,
      Fits column.builder.type ((units.flatMap (entries flatten)).map column.value) := by
  rw [WithinLimits, tabulates.rows_eq, List.map_map]
  exact tabulates.declares.fits_iff _

theorem build_of_arrays (tabulates : Tabulates target table flatten columns)
    {units : List DecodeUnit} {arrays : List ArrayRef}
    (built : (Vectors.ofRows (units.flatMap (entries flatten))
      (withTrailing columns)).build = .ok arrays) :
    table.build target units table.outputSchema =
      .ok (.ok ⟨table.outputSchema, arrays, (units.flatMap (entries flatten)).length⟩) := by
  have batch := tabulates.declares.tryNew (by simp [withTrailing, trailingColumns]) built
  rw [tabulates.build, buildTable, gather_eq, built]
  exact congrArg (fun batch => Except.ok (Except.mapError RpcError.runtimeError batch)) batch

end TableFunction.Tabulates

theorem TableFunction.gathered_eq_flatten (target : Target) (table : TableFunction)
    (units : List DecodeUnit) :
    table.gathered target units = (units.map (table.unitRows target)).flatten := by
  obtain ⟨ρ, flatten, columns, tabulates⟩ := table.tabulates target
  rw [tabulates.gathered_eq, TableFunction.rows, List.flatMap_def]

theorem TableFunction.build_of_withinLimits (target : Target) (table : TableFunction)
    (units : List DecodeUnit) (limits : table.WithinLimits target units) :
    ∃ batch, table.build target units table.outputSchema = .ok (.ok batch) ∧
      batch.rows = table.rows target units ∧ batch.schema = table.outputSchema ∧
      batch.columns.map ArrayRef.dataType = table.outputSchema.map Field.type ∧
      ∀ column ∈ batch.columns, column.len = (table.rows target units).length := by
  obtain ⟨ρ, flatten, columns, tabulates⟩ := table.tabulates target
  obtain ⟨arrays, built, read⟩ :=
    Vectors.build_ofRows ((tabulates.withinLimits_iff units).mp limits)
  obtain ⟨types, heights⟩ := Vectors.build_shape built
  refine ⟨_, tabulates.build_of_arrays built, ?_, rfl, ?_, ?_⟩
  · rw [tabulates.rows_eq]
    exact (rows_eq_iff built).mpr read
  · exact types.trans tabulates.declares.1.symm
  · intro column member
    rw [tabulates.rows_eq, List.length_map]
    exact (heights column member).1

theorem TableFunction.error_null_iff {target : Target} {table : TableFunction}
    {unit : DecodeUnit} {row : List Value} (member : row ∈ table.unitRows target unit) :
    row.getLast? = some .null ↔ ∃ d, unit.result = .ok d := by
  unfold unitRows at member
  cases result : unit.result with
  | ok d =>
      rw [result] at member
      obtain ⟨data, -, rfl⟩ := List.mem_map.mp member
      simp
  | error msg =>
      rw [result] at member
      cases List.mem_singleton.mp member
      simp

/-- Reading back the built batch gives the rows of the units in order: each good
unit its flattener rows with `error` NULL, each bad one a single row of NULLs with
its message. -/
theorem TableFunction.build_reads_back (target : Target) (table : TableFunction)
    (units : List DecodeUnit) (limits : table.WithinLimits target units) :
    ∃ batch, table.build target units table.outputSchema = .ok (.ok batch) ∧
      batch.rows = table.rows target units ∧ batch.schema = table.outputSchema ∧
      batch.columns.map ArrayRef.dataType = table.outputSchema.map Field.type ∧
      (∀ column ∈ batch.columns, column.len = (table.rows target units).length) ∧
      ∀ unit ∈ units, ∀ row ∈ table.unitRows target unit,
        row.getLast? = some .null ↔ ∃ d, unit.result = .ok d := by
  obtain ⟨batch, built, rows, schema, types, heights⟩ :=
    build_of_withinLimits target table units limits
  exact ⟨batch, built, rows, schema, types, heights, fun _ _ _ member => error_null_iff member⟩

def mixedProfile : Proto.Profile where
  stringTable := ["", "main", "thread", "io"]
  sample := [{ locationId := [1], value := [3, 0], label := [{ key := 2, str := 3 }] }]
  location := [{ id := 1, address := 64, line := [{ functionId := 1, line := 7 }] }]
  function := [{ id := 1, name := 1 }]

def mixedUnits : List DecodeUnit :=
  [⟨some "cpu.pb", .ok (.ofProfile mixedProfile)⟩,
    ⟨some "empty.pb", .error PprofError.empty.toString⟩]

theorem TableFunction.build_reads_back_mixedUnits :
    ∃ batch, stacksTable.build .native mixedUnits stacksTable.outputSchema = .ok (.ok batch) ∧
      batch.rows =
        [[.int64 1, .list [.int64 3, .int64 0], .map [.struct [.utf8 "thread", .utf8 "io"]],
            .list [.struct [.utf8 "main", .null, .int64 7, .uint64 64]],
            .utf8 "cpu.pb", .null],
          [.null, .null, .null, .null, .utf8 "empty.pb",
            .utf8 "empty profile (zero bytes)"]] := by
  obtain ⟨batch, built, rows, -⟩ := build_reads_back .native .stacksTable mixedUnits (by decide)
  exact ⟨batch, built, rows⟩

end VgiPprof.Worker
