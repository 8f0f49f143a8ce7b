import VgiPprof.Arrow.Builder
import VgiPprof.Arrow.Limits
import VgiPprof.Arrow.Nested

namespace VgiPprof.Arrow

open Data

/-! Struct arrays over columns of one length. -/

/-- The arrays are the columns of the items, in the types of the fields. -/
structure Fills {α : Type} (fields : List Field) (columns : List (α → Value))
    (items : List α) (arrays : List ArrayRef) : Prop where
  nonempty : arrays ≠ []
  matched : List.Forall₂ (fun (field : Field) (array : ArrayRef) =>
    field.type = array.dataType ∧ array.len = items.length ∧
      (field.nullable = true ∨ array.nullCount = 0)) fields arrays
  read : arrays.map ArrayRef.read = columns.map fun column => items.map column

namespace Fills

variable {α : Type} {fields : List Field} {columns : List (α → Value)}
  {items : List α} {arrays : List ArrayRef}

theorem structArray_new (fills : Fills fields columns items arrays)
    (nulls : Option (List Bool)) (masked : ∀ valid ∈ nulls, valid.length = items.length) :
    StructArray.new (.ofList fields) arrays nulls =
      .ok (.struct (.ofList fields) items.length arrays nulls) := by
  cases arrays with
  | nil => exact absurd rfl fills.nonempty
  | cons first rest =>
      have firstLen : first.len = items.length := by
        cases fills.matched with
        | cons head _ => exact head.2.1
      rw [StructArray.new, Fields.toList_ofList, firstLen, if_pos]
      refine ⟨fills.matched.length_eq, masked, ?_⟩
      rintro ⟨field, array⟩ member
      obtain ⟨type, height, nulls⟩ := (List.forall₂_iff_zip.mp fills.matched).2 member
      exact ⟨type, height, nulls.imp_right .inr⟩

theorem struct_read (fills : Fills fields columns items arrays)
    (nulls : Option (List Bool)) :
    (ArrayRef.struct (.ofList fields) items.length arrays nulls).read =
      mask nulls (items.map fun item => .struct (columns.map fun column => column item)) := by
  rw [ArrayRef.read, readAll_eq_map, fills.read, rowsOf_map, List.map_map]
  rfl

end Fills

/-! Column builders with the facts about them. -/

/-- Builds the values under a list: no row is NULL, and nothing comes out unless
it is right. -/
structure Dense (α : Type) where
  type : DataType
  encode : α → Value
  build : List α → Run ArrayRef
  built : ∀ xs, Fits type (xs.map encode) → ∃ array, build xs = .ok array
  sound : ∀ xs array, build xs = .ok array → Fits type (xs.map encode) ∧
    array.read = xs.map encode ∧ array.len = xs.length ∧ array.dataType = type ∧
    array.nullCount = 0

/-- A loop whose final state `σ` holds the columns of a struct. -/
structure StructFill (σ α : Type) where
  fields : List Field
  columns : List (α → Value)
  width : fields.length = columns.length
  fill : List α → Run σ
  arrays : σ → List ArrayRef
  filled : ∀ items, (∀ pair ∈ fields.zip columns, Fits pair.1.type (items.map pair.2)) →
    ∃ state, fill items = .ok state
  sound : ∀ items state, fill items = .ok state →
    (∀ pair ∈ fields.zip columns, Fits pair.1.type (items.map pair.2)) ∧
      Fills fields columns items (arrays state)

def StructFill.dense {σ α : Type} (loop : StructFill σ α) : Dense α where
  type := .struct (.ofList loop.fields)
  encode item := .struct (loop.columns.map fun column => column item)
  build items := do
    let state ← loop.fill items
    StructArray.new (.ofList loop.fields) (loop.arrays state) none
  built items room := by
    obtain ⟨state, ran⟩ := loop.filled items ((fits_struct loop.width items).mp room)
    have constructed := (loop.sound items state ran).2.structArray_new none (by simp)
    exact ⟨_, bind_eq_ok.mpr ⟨state, ran, constructed⟩⟩
  sound items array built := by
    obtain ⟨state, ran, constructed⟩ := bind_eq_ok.mp built
    obtain ⟨room, fills⟩ := loop.sound items state ran
    cases (fills.structArray_new none (by simp)).symm.trans constructed
    refine ⟨(fits_struct loop.width items).mpr room, fills.struct_read none, rfl, rfl, ?_⟩
    simp [ArrayRef.nullCount, ArrayRef.validity, List.count_replicate]

/-- Builds a column of nullable cells.  `exact` says that a column which reads
back right was within the limits: there is no lucky overflow. -/
structure Builder (α : Type) where
  type : DataType
  encode : α → Value
  build : List (Option α) → Run ArrayRef
  built : ∀ rows, Fits type (rows.map (Value.ofOption encode)) →
    ∃ array, build rows = .ok array ∧ array.read = rows.map (Value.ofOption encode)
  shape : ∀ rows array, build rows = .ok array → array.dataType = type ∧
    array.len = rows.length ∧ array.read.length = rows.length
  exact : ∀ rows array, build rows = .ok array →
    array.read = rows.map (Value.ofOption encode) →
      Fits type (rows.map (Value.ofOption encode))

end VgiPprof.Arrow
