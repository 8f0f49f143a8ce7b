import VgiPprof.Arrow.Table
import VgiPprof.Worker.Columns
import VgiPprof.Worker.Source

namespace VgiPprof.Worker

open Arrow VgiPprof.Core Data
open ArrowBuild hiding size

/-! The six table functions. -/

def commented (name : String) (type : DataType) : Field :=
  .new name type true

def trailingFields : List Field :=
  [commented "file" .utf8, commented "error" .utf8]

def schemaWithTrailing (fields : List Field) : Schema :=
  fields ++ trailingFields

/-- What one row of a table is made from: a flattener row or nothing, and the
trailing pair. -/
structure Entry (ρ : Type) where
  row : Option ρ
  file : Option String
  error : Option String

def dataColumn {ρ : Type} (column : Column ρ) : Column (Entry ρ) where
  Cell := column.Cell
  cell entry := entry.row.bind column.cell
  builder := column.builder

def trailingColumns {ρ : Type} : List (Column (Entry ρ)) :=
  [⟨String, (·.file), strBuilder⟩, ⟨String, (·.error), strBuilder⟩]

def withTrailing {ρ : Type} (columns : List (Column ρ)) : List (Column (Entry ρ)) :=
  columns.map dataColumn ++ trailingColumns

section Build

variable {ρ : Type} (rows : Decoded → List ρ)

def pushUnit {columns : List (Column (Entry ρ))} (vectors : Vectors columns)
    (unit : DecodeUnit) : Vectors columns :=
  match unit.result with
  | .ok decoded =>
      (rows decoded).foldl (fun vectors s => vectors.push ⟨some s, unit.file, none⟩) vectors
  | .error msg => vectors.push ⟨none, unit.file, some msg⟩

def gather (columns : List (Column ρ)) (units : List DecodeUnit) :
    Vectors (withTrailing columns) :=
  units.foldl (pushUnit rows) (Vectors.empty (withTrailing columns))

/-- The shape shared by the `build` functions, which differ in what they flatten
and in which columns they fill. -/
def buildTable (columns : List (Column ρ)) (units : List DecodeUnit) (schema : Schema) :
    Run (Except RpcError RecordBatch) := do
  let arrays ← (gather rows columns units).build
  .ok ((RecordBatch.tryNew schema arrays).mapError .runtimeError)

end Build

namespace Stacks

def outputSchema : Schema :=
  schemaWithTrailing [commented "sample_id" .int64, commented "value" listI64Type,
    commented "labels" mapType, commented "frame" listFrameType]

def columns : List (Column StackRow) :=
  [⟨_, fun s => some s.sampleId, i64Builder⟩,
    ⟨_, fun s => some s.value, listI64Builder⟩,
    ⟨_, fun s => some s.labels, mapBuilder⟩,
    ⟨_, fun s => some s.frames, listFrameBuilder⟩]

def build (target : Target) : List DecodeUnit → Schema → Run (Except RpcError RecordBatch) :=
  buildTable (Decoded.stacks target) columns

end Stacks

namespace Samples

def outputSchema : Schema :=
  schemaWithTrailing [commented "sample_id" .int64, commented "location_ids" listU64Type,
    commented "value" listI64Type, commented "labels" mapType]

def columns : List (Column SampleRow) :=
  [⟨_, fun s => some s.sampleId, i64Builder⟩,
    ⟨_, fun s => some s.locationIds, listU64Builder⟩,
    ⟨_, fun s => some s.value, listI64Builder⟩,
    ⟨_, fun s => some s.labels, mapBuilder⟩]

def build (target : Target) : List DecodeUnit → Schema → Run (Except RpcError RecordBatch) :=
  buildTable (Decoded.samples target) columns

end Samples

namespace Functions

def outputSchema : Schema :=
  schemaWithTrailing [commented "function_id" .uint64, commented "name" .utf8,
    commented "system_name" .utf8, commented "filename" .utf8,
    commented "start_line" .int64]

def columns : List (Column FunctionRow) :=
  [⟨_, fun f => some f.functionId, u64Builder⟩,
    ⟨_, fun f => f.name, strBuilder⟩,
    ⟨_, fun f => f.systemName, strBuilder⟩,
    ⟨_, fun f => f.filename, strBuilder⟩,
    ⟨_, fun f => some f.startLine, i64Builder⟩]

def build (target : Target) : List DecodeUnit → Schema → Run (Except RpcError RecordBatch) :=
  buildTable (Decoded.functions target) columns

end Functions

namespace Locations

def outputSchema : Schema :=
  schemaWithTrailing [commented "location_id" .uint64, commented "address" .uint64,
    commented "mapping_id" .uint64, commented "lines" listLinerefType]

def columns : List (Column LocationRow) :=
  [⟨_, fun l => some l.locationId, u64Builder⟩,
    ⟨_, fun l => some l.address, u64Builder⟩,
    ⟨_, fun l => some l.mappingId, u64Builder⟩,
    ⟨_, fun l => some l.lines, listLinerefBuilder⟩]

def build : List DecodeUnit → Schema → Run (Except RpcError RecordBatch) :=
  buildTable Decoded.locations columns

end Locations

namespace Mappings

def outputSchema : Schema :=
  schemaWithTrailing [commented "mapping_id" .uint64, commented "memory_start" .uint64,
    commented "memory_limit" .uint64, commented "file_offset" .uint64,
    commented "filename" .utf8, commented "build_id" .utf8]

def columns : List (Column MappingRow) :=
  [⟨_, fun m => some m.mappingId, u64Builder⟩,
    ⟨_, fun m => some m.memoryStart, u64Builder⟩,
    ⟨_, fun m => some m.memoryLimit, u64Builder⟩,
    ⟨_, fun m => some m.fileOffset, u64Builder⟩,
    ⟨_, fun m => m.filename, strBuilder⟩,
    ⟨_, fun m => m.buildId, strBuilder⟩]

def build (target : Target) : List DecodeUnit → Schema → Run (Except RpcError RecordBatch) :=
  buildTable (Decoded.mappings target) columns

end Mappings

namespace MetaTable

def outputSchema : Schema :=
  schemaWithTrailing [commented "sample_types" listValueTypeType, commented "period" .int64,
    commented "period_type" (structType valueTypeFields),
    commented "duration_nanos" .int64, commented "time_nanos" .int64,
    commented "default_sample_type" .utf8]

def columns : List (Column Meta) :=
  [⟨_, fun m => some m.sampleTypes, listValueTypeBuilder⟩,
    ⟨_, fun m => some m.period, i64Builder⟩,
    ⟨_, fun m => m.periodType, valueTypeStructBuilder⟩,
    ⟨_, fun m => some m.durationNanos, i64Builder⟩,
    ⟨_, fun m => some m.timeNanos, i64Builder⟩,
    ⟨_, fun m => m.defaultSampleType, strBuilder⟩]

def build (target : Target) : List DecodeUnit → Schema → Run (Except RpcError RecordBatch) :=
  buildTable (fun decoded => [decoded.metaRow target]) columns

end MetaTable

inductive TableFunction where
  | stacksTable
  | samplesTable
  | functionsTable
  | locationsTable
  | mappingsTable
  | metaTable
  deriving DecidableEq, Repr

namespace TableFunction

def outputSchema : TableFunction → Schema
  | stacksTable => Stacks.outputSchema
  | samplesTable => Samples.outputSchema
  | functionsTable => Functions.outputSchema
  | locationsTable => Locations.outputSchema
  | mappingsTable => Mappings.outputSchema
  | metaTable => MetaTable.outputSchema

def build (target : Target) :
    TableFunction → List DecodeUnit → Schema → Run (Except RpcError RecordBatch)
  | stacksTable => Stacks.build target
  | samplesTable => Samples.build target
  | functionsTable => Functions.build target
  | locationsTable => Locations.build
  | mappingsTable => Mappings.build target
  | metaTable => MetaTable.build target

/-- The rows that the loop of `build` gathers, before they become arrays. -/
def gathered (target : Target) : TableFunction → List DecodeUnit → List (List Value)
  | stacksTable, units => (gather (Decoded.stacks target) Stacks.columns units).rows
  | samplesTable, units => (gather (Decoded.samples target) Samples.columns units).rows
  | functionsTable, units => (gather (Decoded.functions target) Functions.columns units).rows
  | locationsTable, units => (gather Decoded.locations Locations.columns units).rows
  | mappingsTable, units => (gather (Decoded.mappings target) Mappings.columns units).rows
  | metaTable, units =>
      (gather (fun decoded => [decoded.metaRow target]) MetaTable.columns units).rows

end TableFunction

end VgiPprof.Worker
