import Mathlib.Algebra.Order.BigOperators.Group.List
import Mathlib.Algebra.Order.Group.Nat
import Mathlib.Data.List.Flatten
import VgiPprof.Arrow.Array

namespace VgiPprof.Arrow

/-! What a column must count with 32-bit offsets: the elements of its lists and
maps, and the bytes of its strings, at every depth of its type. -/

def Value.bytes : Value → Nat
  | .utf8 text => text.utf8ByteSize
  | _ => 0

def Value.elements : Value → List Value
  | .list elements => elements
  | .map entries => entries
  | _ => []

def Value.column (i : Nat) : Value → Value
  | .struct columns => columns.getD i .null
  | _ => .null

mutual
def DataType.loads : DataType → List Value → List Nat
  | .int64, _ => []
  | .uint64, _ => []
  | .utf8, cells => [(cells.map Value.bytes).sum]
  | .struct fields, cells => fields.loads 0 cells
  | .list field, cells =>
      (cells.flatMap Value.elements).length :: field.loads (cells.flatMap Value.elements)
  | .map entries _, cells =>
      (cells.flatMap Value.elements).length :: entries.loads (cells.flatMap Value.elements)

def Field.loads : Field → List Value → List Nat
  | .new _ type _, cells => type.loads cells

def Fields.loads : Fields → Nat → List Value → List Nat
  | .nil, _, _ => []
  | .cons head tail, i, cells =>
      head.loads (cells.map (Value.column i)) ++ tail.loads (i + 1) cells
end

def Fits (type : DataType) (cells : List Value) : Prop :=
  ∀ load ∈ type.loads cells, load ≤ i32Max

instance (type : DataType) (cells : List Value) : Decidable (Fits type cells) :=
  inferInstanceAs (Decidable (∀ load ∈ type.loads cells, load ≤ i32Max))

@[simp] theorem fits_int64 (cells : List Value) : Fits .int64 cells := nofun

@[simp] theorem fits_uint64 (cells : List Value) : Fits .uint64 cells := nofun

theorem fits_utf8 {α : Type} (text : α → Option String) (items : List α) :
    Fits .utf8 (items.map fun item => .ofOption .utf8 (text item)) ↔
      byteTotal (items.map text) ≤ i32Max := by
  have bytes : (items.map fun item => Value.ofOption .utf8 (text item)).map Value.bytes =
      (items.map text).map byteSize := by
    rw [List.map_map, List.map_map]
    apply List.map_congr_left
    intro item _
    simp only [Function.comp_apply]
    cases text item <;> rfl
  simp [Fits, DataType.loads, bytes, byteTotal]

theorem Field.loads_eq (field : Field) (cells : List Value) :
    field.loads cells = field.type.loads cells := by
  cases field
  rfl

/-- The induction is on the fields, with the columns already read set before those
that remain. -/
theorem loads_le_iff {α : Type} (before rest : List (α → Value)) (fields : List Field)
    (width : fields.length = rest.length) (items : List α) :
    (∀ load ∈ (Fields.ofList fields).loads before.length (items.map fun item =>
        .struct ((before ++ rest).map fun column => column item)), load ≤ i32Max) ↔
      ∀ pair ∈ fields.zip rest, Fits pair.1.type (items.map pair.2) := by
  induction fields generalizing before rest with
  | nil => simp [Fields.ofList, Fields.loads]
  | cons field fields ih =>
      cases rest with
      | nil => cases width
      | cons column rest =>
          have tail := ih (before ++ [column]) rest (Nat.succ.inj width)
          rw [List.append_assoc, List.singleton_append, List.length_append,
            List.length_singleton] at tail
          have head : (items.map fun item => Value.struct
              ((before ++ column :: rest).map fun column => column item)).map
                (Value.column before.length) = items.map column := by
            simp [Function.comp_def, Value.column]
          simp only [Fields.ofList, Fields.loads, List.forall_mem_append, head, tail,
            List.zip_cons_cons, List.forall_mem_cons, Field.loads_eq]
          exact Iff.rfl

theorem fits_struct {α : Type} {fields : List Field} {columns : List (α → Value)}
    (width : fields.length = columns.length) (items : List α) :
    Fits (.struct (.ofList fields))
        (items.map fun item => .struct (columns.map fun column => column item)) ↔
      ∀ pair ∈ fields.zip columns, Fits pair.1.type (items.map pair.2) :=
  loads_le_iff [] columns fields width items

/-! Fewer cells load a column less, at every depth of its type. -/

mutual
theorem DataType.loads_le {cells more : List Value} (fewer : cells.Sublist more) :
    (type : DataType) → List.Forall₂ (· ≤ ·) (type.loads cells) (type.loads more)
  | .int64 => .nil
  | .uint64 => .nil
  | .utf8 => .cons ((fewer.map Value.bytes).sum_le_sum fun _ _ => Nat.zero_le _) .nil
  | .struct fields => Fields.loads_le fewer 0 fields
  | .list field =>
      .cons (fewer.flatMap Value.elements).length_le
        (Field.loads_le (fewer.flatMap Value.elements) field)
  | .map entries _ =>
      .cons (fewer.flatMap Value.elements).length_le
        (Field.loads_le (fewer.flatMap Value.elements) entries)

theorem Field.loads_le {cells more : List Value} (fewer : cells.Sublist more) :
    (field : Field) → List.Forall₂ (· ≤ ·) (field.loads cells) (field.loads more)
  | .new _ type _ => DataType.loads_le fewer type

theorem Fields.loads_le {cells more : List Value} (fewer : cells.Sublist more) (i : Nat) :
    (fields : Fields) →
      List.Forall₂ (· ≤ ·) (fields.loads i cells) (fields.loads i more)
  | .nil => .nil
  | .cons head tail =>
      List.rel_append (Field.loads_le (fewer.map (Value.column i)) head)
        (Fields.loads_le fewer (i + 1) tail)
end

theorem Fits.of_sublist {type : DataType} {cells more : List Value}
    (fits : Fits type more) (fewer : cells.Sublist more) : Fits type cells := by
  unfold Fits at fits ⊢
  generalize type.loads cells = loads, type.loads more = moreLoads,
    type.loads_le fewer = smaller at fits
  induction smaller with
  | nil => nofun
  | cons le _ induction =>
      obtain ⟨first, rest⟩ := List.forall_mem_cons.mp fits
      exact List.forall_mem_cons.mpr ⟨Nat.le_trans le first, induction rest⟩

end VgiPprof.Arrow
