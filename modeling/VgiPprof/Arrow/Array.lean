import Mathlib.Algebra.Order.Ring.Int

namespace VgiPprof.Arrow

/-! Arrow arrays with 32-bit offsets, as the columnar format lays them out, and
the checks their constructors make.  A constructor that would unwrap an error
panics. -/

def i32Max : Nat := 2147483647

inductive Panic where
  | offsetBuffer
  | byteArrayOffset
  | invalidArray
  deriving DecidableEq, Repr

abbrev Run := Except Panic

mutual
inductive Field where
  | new (name : String) (type : DataType) (nullable : Bool)
  deriving DecidableEq

inductive DataType where
  | int64
  | uint64
  | utf8
  | struct (fields : Fields)
  | list (field : Field)
  | map (entries : Field) (keysSorted : Bool)
  deriving DecidableEq

inductive Fields where
  | nil
  | cons (head : Field) (tail : Fields)
  deriving DecidableEq
end

def Field.type : Field → DataType
  | .new _ type _ => type

def Field.nullable : Field → Bool
  | .new _ _ nullable => nullable

def Fields.ofList : List Field → Fields
  | [] => .nil
  | head :: tail => .cons head (ofList tail)

def Fields.toList : Fields → List Field
  | .nil => []
  | .cons head tail => head :: tail.toList

@[simp] theorem Fields.toList_ofList (fields : List Field) :
    (Fields.ofList fields).toList = fields := by
  induction fields with
  | nil => rfl
  | cons head tail ih => rw [ofList, toList, ih]

/-- Offsets that never step back: what a list may be cut along. -/
structure OffsetBuffer where
  offsets : List Int32
  nonempty : offsets ≠ []
  nonneg : ∀ offset ∈ offsets, 0 ≤ offset
  sorted : offsets.Pairwise (· ≤ ·)

/-- Panics on offsets that are missing, negative or decreasing. -/
def OffsetBuffer.new (offsets : List Int32) : Run OffsetBuffer :=
  if valid : offsets ≠ [] ∧ offsets.all (fun offset => decide (0 ≤ offset)) = true ∧
      offsets.Pairwise (· ≤ ·) then
    .ok ⟨offsets, valid.1, by simpa using valid.2.1, valid.2.2⟩
  else .error .offsetBuffer

def OffsetBuffer.last (buffer : OffsetBuffer) : Int32 :=
  buffer.offsets.getLast buffer.nonempty

def byteSize : Option String → Nat
  | none => 0
  | some text => text.utf8ByteSize

def byteTotal (values : List (Option String)) : Nat :=
  (values.map byteSize).sum

/-- Strings whose bytes a 32-bit offset can still address. -/
structure StringArray where
  values : List (Option String)
  fits : byteTotal values ≤ i32Max

inductive ArrayRef where
  | int64 (values : List (Option Int64))
  | uint64 (values : List (Option UInt64))
  | utf8 (values : StringArray)
  | struct (fields : Fields) (len : Nat) (columns : List ArrayRef)
      (nulls : Option (List Bool))
  | list (field : Field) (offsets : OffsetBuffer) (values : ArrayRef)
      (nulls : Option (List Bool))
  | map (field : Field) (offsets : OffsetBuffer) (entries : ArrayRef)
      (nulls : Option (List Bool)) (ordered : Bool)

/-- What a reader of an array sees in one row. -/
inductive Value where
  | null
  | int64 (value : Int64)
  | uint64 (value : UInt64)
  | utf8 (value : String)
  | struct (columns : List Value)
  | list (elements : List Value)
  | map (entries : List Value)

def Value.ofOption {α : Type} (encode : α → Value) : Option α → Value
  | none => .null
  | some value => encode value

namespace ArrayRef

def dataType : ArrayRef → DataType
  | .int64 _ => .int64
  | .uint64 _ => .uint64
  | .utf8 _ => .utf8
  | .struct fields _ _ _ => .struct fields
  | .list field _ _ _ => .list field
  | .map field _ _ _ ordered => .map field ordered

def len : ArrayRef → Nat
  | .int64 values => values.length
  | .uint64 values => values.length
  | .utf8 values => values.values.length
  | .struct _ len _ _ => len
  | .list _ offsets _ _ => offsets.offsets.length - 1
  | .map _ offsets _ _ _ => offsets.offsets.length - 1

def validity : ArrayRef → List Bool
  | .int64 values => values.map (·.isSome)
  | .uint64 values => values.map (·.isSome)
  | .utf8 values => values.values.map (·.isSome)
  | .struct _ len _ nulls => nulls.getD (List.replicate len true)
  | .list _ offsets _ nulls => nulls.getD (List.replicate (offsets.offsets.length - 1) true)
  | .map _ offsets _ nulls _ => nulls.getD (List.replicate (offsets.offsets.length - 1) true)

def nullCount (array : ArrayRef) : Nat :=
  array.validity.count false

end ArrayRef

/-! Reading an array row by row. -/

def rowsOf (len : Nat) (columns : List (List Value)) : List (List Value) :=
  (List.range len).map fun i => columns.map fun column => column.getD i .null

def slice {α : Type} (child : List α) (lo hi : Int32) : List α :=
  (child.drop lo.toInt.toNat).take (hi.toInt.toNat - lo.toInt.toNat)

/-- Row `i` is `child[offsets[i]..offsets[i+1]]`. -/
def slices {α : Type} (child : List α) : List Int32 → List (List α)
  | lo :: hi :: rest => slice child lo hi :: slices child (hi :: rest)
  | _ => []

/-- Rows whose validity bit is off are NULL, whatever lies beneath. -/
def mask (nulls : Option (List Bool)) (rows : List Value) : List Value :=
  match nulls with
  | none => rows
  | some valid => List.zipWith (fun bit row => if bit then row else .null) valid rows

mutual
def ArrayRef.read : ArrayRef → List Value
  | .int64 values => values.map (Value.ofOption .int64)
  | .uint64 values => values.map (Value.ofOption .uint64)
  | .utf8 values => values.values.map (Value.ofOption .utf8)
  | .struct _ len columns nulls => mask nulls ((rowsOf len (readAll columns)).map .struct)
  | .list _ offsets values nulls =>
      mask nulls ((slices values.read offsets.offsets).map .list)
  | .map _ offsets entries nulls _ =>
      mask nulls ((slices entries.read offsets.offsets).map .map)

def readAll : List ArrayRef → List (List Value)
  | [] => []
  | array :: arrays => array.read :: readAll arrays
end

@[simp] theorem readAll_eq_map (arrays : List ArrayRef) :
    readAll arrays = arrays.map ArrayRef.read := by
  induction arrays with
  | nil => rfl
  | cons array arrays ih => rw [readAll, ih, List.map_cons]

/-! Constructors of nested arrays. -/

def masksNulls (nulls : Option (List Bool)) (child : ArrayRef) : Bool :=
  match nulls with
  | none => false
  | some valid => (List.zipWith (fun outer inner => !outer || inner) valid
      child.validity).all id

def StructArray.new (fields : Fields) (columns : List ArrayRef)
    (nulls : Option (List Bool)) : Run ArrayRef :=
  match columns with
  | [] => .error .invalidArray
  | first :: _ =>
      if fields.toList.length = columns.length ∧
          (∀ valid ∈ nulls, valid.length = first.len) ∧
          (∀ pair ∈ fields.toList.zip columns,
            pair.1.type = pair.2.dataType ∧ pair.2.len = first.len ∧
            (pair.1.nullable = true ∨ masksNulls nulls pair.2 = true ∨
              pair.2.nullCount = 0)) then
        .ok (.struct fields first.len columns nulls)
      else .error .invalidArray

def ListArray.new (field : Field) (offsets : OffsetBuffer) (values : ArrayRef)
    (nulls : Option (List Bool)) : Run ArrayRef :=
  if offsets.last.toInt ≤ values.len ∧
      (∀ valid ∈ nulls, valid.length = offsets.offsets.length - 1) ∧
      (field.nullable = true ∨ values.nullCount = 0) ∧
      field.type = values.dataType then
    .ok (.list field offsets values nulls)
  else .error .invalidArray

def columnCount : ArrayRef → Nat
  | .struct _ _ columns _ => columns.length
  | _ => 0

def MapArray.new (field : Field) (offsets : OffsetBuffer) (entries : ArrayRef)
    (nulls : Option (List Bool)) (ordered : Bool) : Run ArrayRef :=
  if offsets.last.toInt ≤ entries.len ∧
      (∀ valid ∈ nulls, valid.length = offsets.offsets.length - 1) ∧
      field.nullable = false ∧ entries.nullCount = 0 ∧
      field.type = entries.dataType ∧ columnCount entries = 2 then
    .ok (.map field offsets entries nulls ordered)
  else .error .invalidArray

/-! Record batches. -/

abbrev Schema := List Field

inductive ArrowError where
  | columnCount
  | rowCount
  | nonNullable
  | columnLength
  | columnType
  deriving DecidableEq, Repr

structure RecordBatch where
  schema : Schema
  columns : List ArrayRef
  numRows : Nat

def RecordBatch.tryNew (schema : Schema) (columns : List ArrayRef) :
    Except ArrowError RecordBatch :=
  if schema.length ≠ columns.length then .error .columnCount
  else
    match columns with
    | [] => .error .rowCount
    | first :: _ =>
        if ∃ pair ∈ schema.zip columns, pair.1.nullable = false ∧ pair.2.nullCount ≠ 0 then
          .error .nonNullable
        else if ∃ column ∈ columns, column.len ≠ first.len then .error .columnLength
        else if ∃ pair ∈ schema.zip columns, pair.1.type ≠ pair.2.dataType then
          .error .columnType
        else .ok ⟨schema, columns, first.len⟩

def RecordBatch.rows (batch : RecordBatch) : List (List Value) :=
  rowsOf batch.numRows (readAll batch.columns)

end VgiPprof.Arrow
