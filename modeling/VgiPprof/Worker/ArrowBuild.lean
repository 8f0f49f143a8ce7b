import VgiPprof.Arrow.Builder
import VgiPprof.Core.Decoded

namespace VgiPprof.Worker.ArrowBuild

open Arrow VgiPprof.Core Data

/-! Arrow types and column builders shared by the table functions. -/

def listField (inner : DataType) : Field :=
  .new "item" inner true

def structType (fields : List Field) : DataType :=
  .struct (.ofList fields)

def valueTypeFields : List Field :=
  [.new "type" .utf8 true, .new "unit" .utf8 true]

def frameFields : List Field :=
  [.new "function" .utf8 true, .new "filename" .utf8 true,
    .new "line" .int64 true, .new "address" .uint64 true]

def linerefFields : List Field :=
  [.new "function_id" .uint64 true, .new "line" .int64 true]

def mapEntryFields : List Field :=
  [.new "key" .utf8 false, .new "value" .utf8 true]

def mapEntriesField : Field :=
  .new "entries" (structType mapEntryFields) false

def mapType : DataType := .map mapEntriesField false

def listI64Type : DataType := .list (listField .int64)

def listU64Type : DataType := .list (listField .uint64)

def listFrameType : DataType := .list (listField (structType frameFields))

def listLinerefType : DataType := .list (listField (structType linerefFields))

def listValueTypeType : DataType := .list (listField (structType valueTypeFields))

/-! Flat columns. -/

def i64Col (rows : List (Option Int64)) : Run ArrayRef :=
  .ok (.int64 (rows.foldl PrimitiveBuilder.appendOption .new).values)

def u64Col (rows : List (Option UInt64)) : Run ArrayRef :=
  .ok (.uint64 (rows.foldl PrimitiveBuilder.appendOption .new).values)

def strCol (rows : List (Option String)) : Run ArrayRef := do
  let b ← rows.foldlM StringBuilder.appendOption .new
  .ok b.finish

/-! Offsets and validity of a list or map column. -/

structure OffsetsState where
  offsets : List Int32
  valid : List Bool
  total : Int32

/-- `*n as i32` keeps the low 32 bits and `+=` wraps, as in a release build. -/
def offsetsStep (state : OffsetsState) : Option Nat → OffsetsState
  | some n =>
      let total := state.total + Int32.ofNat n
      ⟨state.offsets ++ [total], state.valid ++ [true], total⟩
  | none => ⟨state.offsets ++ [state.total], state.valid ++ [false], state.total⟩

def offsetsAndNulls (counts : List (Option Nat)) : Run (OffsetBuffer × List Bool) := do
  let state := counts.foldl offsetsStep ⟨[0], [], 0⟩
  let offsets ← OffsetBuffer.new state.offsets
  .ok (offsets, state.valid)

/-! Nested columns.  The `list_*_col` functions differ only in how they build
their elements. -/

def elements {α : Type} (rows : List (Option (List α))) : List α :=
  -- `rows.iter().flatten().flatten()`: NULL rows have no elements
  (rows.filterMap id).flatten

def counts {α : Type} (rows : List (Option (List α))) : List (Option Nat) :=
  rows.map fun r => r.map List.length

def listCol {α : Type} (element : DataType) (values : List α → Run ArrayRef)
    (rows : List (Option (List α))) : Run ArrayRef := do
  let (offsets, nulls) ← offsetsAndNulls (counts rows)
  let child ← values (elements rows)
  ListArray.new (listField element) offsets child (some nulls)

def i64Values (values : List Int64) : Run ArrayRef :=
  .ok (.int64 (values.foldl PrimitiveBuilder.appendValue .new).values)

def listI64Col : List (Option (List Int64)) → Run ArrayRef :=
  listCol .int64 i64Values

def u64Values (values : List UInt64) : Run ArrayRef :=
  .ok (.uint64 (values.foldl PrimitiveBuilder.appendValue .new).values)

def listU64Col : List (Option (List UInt64)) → Run ArrayRef :=
  listCol .uint64 u64Values

def appendTexts {α : Type} (left right : α → String)
    (state : StringBuilder × StringBuilder) (item : α) :
    Run (StringBuilder × StringBuilder) := do
  let first ← state.1.appendValue (left item)
  let second ← state.2.appendValue (right item)
  .ok (first, second)

def textPairs {α : Type} (fields : List Field) (left right : α → String)
    (items : List α) : Run ArrayRef := do
  let (first, second) ← items.foldlM (appendTexts left right) (.new, .new)
  StructArray.new (.ofList fields) [first.finish, second.finish] none

def mapEntries : List (String × String) → Run ArrayRef :=
  textPairs mapEntryFields (·.1) (·.2)

def mapCol (rows : List (Option (List (String × String)))) : Run ArrayRef := do
  let (offsets, nulls) ← offsetsAndNulls (counts rows)
  let entries ← mapEntries (elements rows)
  MapArray.new mapEntriesField offsets entries (some nulls) false

structure ValueTypeBuilders where
  ty : StringBuilder
  unit : StringBuilder
  valid : List Bool

def appendValueTypeOption (state : ValueTypeBuilders) :
    Option ValueType → Run ValueTypeBuilders
  | some vt => do
      let ty ← state.ty.appendValue vt.type
      let unit ← state.unit.appendValue vt.unit
      .ok ⟨ty, unit, state.valid ++ [true]⟩
  | none => do
      let ty ← state.ty.appendNull
      let unit ← state.unit.appendNull
      .ok ⟨ty, unit, state.valid ++ [false]⟩

def valueTypeStructCol (rows : List (Option ValueType)) : Run ArrayRef := do
  let state ← rows.foldlM appendValueTypeOption ⟨.new, .new, []⟩
  StructArray.new (.ofList valueTypeFields) [state.ty.finish, state.unit.finish] (some state.valid)

def valueTypeValues : List ValueType → Run ArrayRef :=
  textPairs valueTypeFields (·.type) (·.unit)

def listValueTypeCol : List (Option (List ValueType)) → Run ArrayRef :=
  listCol (structType valueTypeFields) valueTypeValues

structure FrameBuilders where
  function : StringBuilder
  filename : StringBuilder
  line : PrimitiveBuilder Int64
  address : PrimitiveBuilder UInt64

def appendFrame (state : FrameBuilders) (fr : Frame) : Run FrameBuilders := do
  let function ← state.function.appendOption fr.function
  let filename ← state.filename.appendOption fr.filename
  .ok ⟨function, filename, state.line.appendOption fr.line,
    state.address.appendValue fr.address⟩

def frameValues (values : List Frame) : Run ArrayRef := do
  let state ← values.foldlM appendFrame ⟨.new, .new, .new, .new⟩
  StructArray.new (.ofList frameFields) [state.function.finish, state.filename.finish,
    .int64 state.line.values, .uint64 state.address.values] none

def listFrameCol : List (Option (List Frame)) → Run ArrayRef :=
  listCol (structType frameFields) frameValues

def appendLineref (state : PrimitiveBuilder UInt64 × PrimitiveBuilder Int64)
    (lr : LineRef) : PrimitiveBuilder UInt64 × PrimitiveBuilder Int64 :=
  (state.1.appendValue lr.functionId, state.2.appendValue lr.line)

def linerefValues (values : List LineRef) : Run ArrayRef :=
  let (functionId, line) := values.foldl appendLineref (.new, .new)
  StructArray.new (.ofList linerefFields) [.uint64 functionId.values, .int64 line.values] none

def listLinerefCol : List (Option (List LineRef)) → Run ArrayRef :=
  listCol (structType linerefFields) linerefValues

end VgiPprof.Worker.ArrowBuild
