import VgiPprof.Arrow.Column

namespace VgiPprof.Arrow

open Data

/-! Tables gathered row by row into one vector a column, then built column by
column. -/

structure Column (ρ : Type) where
  Cell : Type
  cell : ρ → Option Cell
  builder : Builder Cell

variable {ρ : Type}

def Column.value (column : Column ρ) (row : ρ) : Value :=
  .ofOption column.builder.encode (column.cell row)

def Vectors : List (Column ρ) → Type
  | [] => Unit
  | column :: columns => List (Option column.Cell) × Vectors columns

namespace Vectors

def empty : (columns : List (Column ρ)) → Vectors columns
  | [] => ()
  | _ :: columns => ([], empty columns)

def push : {columns : List (Column ρ)} → Vectors columns → ρ → Vectors columns
  | [], _, _ => ()
  | column :: _, (cells, vectors), row => (cells ++ [column.cell row], vectors.push row)

def build : {columns : List (Column ρ)} → Vectors columns → Run (List ArrayRef)
  | [], _ => .ok []
  | column :: _, (cells, vectors) => do
      let array ← column.builder.build cells
      let arrays ← vectors.build
      .ok (array :: arrays)

def values : {columns : List (Column ρ)} → Vectors columns → List (List Value)
  | [], _ => []
  | column :: _, (cells, vectors) =>
      cells.map (Value.ofOption column.builder.encode) :: vectors.values

def rows {columns : List (Column ρ)} (vectors : Vectors columns) : List (List Value) :=
  rowsOf (vectors.values.headD []).length vectors.values

def ofRows (rows : List ρ) : (columns : List (Column ρ)) → Vectors columns
  | [] => ()
  | column :: columns => (rows.map column.cell, ofRows rows columns)

theorem empty_eq_ofRows (columns : List (Column ρ)) : empty columns = ofRows [] columns := by
  induction columns with
  | nil => rfl
  | cons column columns ih => rw [empty, ofRows, ih, List.map_nil]

theorem push_ofRows (rows : List ρ) (row : ρ) (columns : List (Column ρ)) :
    (ofRows rows columns).push row = ofRows (rows ++ [row]) columns := by
  induction columns with
  | nil => rfl
  | cons column columns ih =>
      rw [ofRows, ofRows, push, ih, List.map_append]
      rfl

theorem foldl_push_ofRows (more rows : List ρ) (columns : List (Column ρ)) :
    more.foldl push (ofRows rows columns) = ofRows (rows ++ more) columns := by
  induction more generalizing rows with
  | nil => rw [List.append_nil, List.foldl_nil]
  | cons row more ih => rw [List.foldl_cons, push_ofRows, ih, ← List.append_cons]

theorem values_ofRows (rows : List ρ) (columns : List (Column ρ)) :
    (ofRows rows columns).values = columns.map fun column => rows.map column.value := by
  induction columns with
  | nil => rfl
  | cons column columns ih =>
      rw [ofRows, values, ih, List.map_cons, List.map_map]
      rfl

theorem rows_ofRows (rows : List ρ) {columns : List (Column ρ)} (nonempty : columns ≠ []) :
    (ofRows rows columns).rows =
      rows.map fun row => columns.map fun column => column.value row := by
  have transposed := rowsOf_map rows (columns.map Column.value)
  simp only [List.map_map, Function.comp_def] at transposed
  rw [Vectors.rows, values_ofRows, ← transposed]
  cases columns with
  | nil => exact absurd rfl nonempty
  | cons column columns => simp

/-! What the arrays built from rows are. -/

theorem build_ofRows {rows : List ρ} {columns : List (Column ρ)}
    (fits : ∀ column ∈ columns, Fits column.builder.type (rows.map column.value)) :
    ∃ arrays, (ofRows rows columns).build = .ok arrays ∧
      arrays.map ArrayRef.read = columns.map fun column => rows.map column.value := by
  induction columns with
  | nil => exact ⟨[], rfl, rfl⟩
  | cons column columns ih =>
      obtain ⟨first, rest⟩ := List.forall_mem_cons.mp fits
      obtain ⟨array, built, read⟩ := column.builder.built (rows.map column.cell)
        (by rwa [List.map_map])
      obtain ⟨arrays, restBuilt, restRead⟩ := ih rest
      refine ⟨array :: arrays, bind_eq_ok.mpr ⟨array, built,
        bind_eq_ok.mpr ⟨arrays, restBuilt, rfl⟩⟩, ?_⟩
      rw [List.map_cons, List.map_cons, read, restRead, List.map_map]
      rfl

theorem build_shape {rows : List ρ} {columns : List (Column ρ)} {arrays : List ArrayRef}
    (built : (ofRows rows columns).build = .ok arrays) :
    arrays.map ArrayRef.dataType = columns.map (·.builder.type) ∧
      ∀ array ∈ arrays, array.len = rows.length ∧ array.read.length = rows.length := by
  induction columns generalizing arrays with
  | nil =>
      cases built
      exact ⟨rfl, nofun⟩
  | cons column columns ih =>
      obtain ⟨array, first, built⟩ := bind_eq_ok.mp built
      obtain ⟨rest, restBuilt, built⟩ := bind_eq_ok.mp built
      cases built
      obtain ⟨type, len, height⟩ := column.builder.shape _ _ first
      obtain ⟨types, heights⟩ := ih restBuilt
      rw [List.length_map] at len height
      exact ⟨by rw [List.map_cons, List.map_cons, type, types],
        List.forall_mem_cons.mpr ⟨⟨len, height⟩, heights⟩⟩

theorem build_exact {rows : List ρ} {columns : List (Column ρ)} {arrays : List ArrayRef}
    (built : (ofRows rows columns).build = .ok arrays)
    (read : arrays.map ArrayRef.read = columns.map fun column => rows.map column.value) :
    ∀ column ∈ columns, Fits column.builder.type (rows.map column.value) := by
  induction columns generalizing arrays with
  | nil => nofun
  | cons column columns ih =>
      obtain ⟨array, first, built⟩ := bind_eq_ok.mp built
      obtain ⟨rest, restBuilt, built⟩ := bind_eq_ok.mp built
      cases built
      obtain ⟨firstRead, restRead⟩ := List.cons.inj read
      have exact_ := column.builder.exact (rows.map column.cell) array first
        (by rw [firstRead, List.map_map]; rfl)
      rw [List.map_map] at exact_
      exact List.forall_mem_cons.mpr ⟨exact_, ih restBuilt restRead⟩

end Vectors

/-! Batches of built columns. -/

/-- The schema names nullable fields of the columns' types. -/
def Declares (schema : Schema) (columns : List (Column ρ)) : Prop :=
  schema.map Field.type = columns.map (·.builder.type) ∧
    ∀ field ∈ schema, field.nullable = true

variable {schema : Schema} {columns : List (Column ρ)} {rows : List ρ}
  {arrays : List ArrayRef}

theorem Declares.paired (declares : Declares schema columns) :
    List.Forall₂ (fun (field : Field) (column : Column ρ) =>
      field.type = column.builder.type) schema columns := by
  have same := List.forall₂_eq_eq_eq ▸ declares.1
  exact List.forall₂_map_left_iff.mp (List.forall₂_map_right_iff.mp same)

theorem Declares.fits_iff (declares : Declares schema columns) (rows : List ρ) :
    Fits (.struct (.ofList schema))
        (rows.map fun row => .struct (columns.map fun column => column.value row)) ↔
      ∀ column ∈ columns, Fits column.builder.type (rows.map column.value) := by
  have wide (row : ρ) : columns.map (fun column => column.value row) =
      (columns.map Column.value).map fun value => value row := by
    rw [List.map_map]
    rfl
  have width : schema.length = (columns.map Column.value).length := by
    rw [List.length_map]
    exact declares.paired.length_eq
  simp only [wide, fits_struct width rows]
  have paired := declares.paired
  clear wide width declares
  induction paired with
  | nil => simp
  | @cons field column schema columns type _ ih =>
      simp only [List.map_cons, List.zip_cons_cons, List.forall_mem_cons, ih, type]

theorem Declares.tryNew (declares : Declares schema columns) (nonempty : columns ≠ [])
    (built : (Vectors.ofRows rows columns).build = .ok arrays) :
    RecordBatch.tryNew schema arrays = .ok ⟨schema, arrays, rows.length⟩ := by
  obtain ⟨types, heights⟩ := Vectors.build_shape built
  have same : schema.map Field.type = arrays.map ArrayRef.dataType :=
    declares.1.trans types.symm
  have width : schema.length = arrays.length := by
    simpa using congrArg List.length same
  have nullable : ¬∃ pair ∈ schema.zip arrays, pair.1.nullable = false ∧
      pair.2.nullCount ≠ 0 := by
    rintro ⟨⟨field, array⟩, member, notNullable, -⟩
    have := declares.2 field (List.of_mem_zip member).1
    simp_all
  have typed : ¬∃ pair ∈ schema.zip arrays, pair.1.type ≠ pair.2.dataType := by
    rintro ⟨⟨field, array⟩, member, differs⟩
    have same := List.forall₂_eq_eq_eq ▸ same
    have paired := List.forall₂_map_left_iff.mp (List.forall₂_map_right_iff.mp same)
    exact differs ((List.forall₂_iff_zip.mp paired).2 member)
  cases arrays with
  | nil =>
      have := congrArg List.length types
      simp_all
  | cons first rest =>
      have firstLen := (heights first List.mem_cons_self).1
      have level : ¬∃ column ∈ first :: rest, column.len ≠ rows.length :=
        fun ⟨column, member, differs⟩ => differs (heights column member).1
      rw [RecordBatch.tryNew, if_neg (not_not.mpr width)]
      simp only [if_neg nullable, firstLen, if_neg level, if_neg typed]

theorem rows_eq_iff (built : (Vectors.ofRows rows columns).build = .ok arrays) :
    (RecordBatch.mk schema arrays rows.length).rows =
        rows.map (fun row => columns.map fun column => column.value row) ↔
      arrays.map ArrayRef.read = columns.map fun column => rows.map column.value := by
  obtain ⟨types, heights⟩ := Vectors.build_shape built
  have values : (columns.map Column.value).map (fun value => rows.map value) =
      columns.map fun column => rows.map column.value := List.map_map
  have wide : ∀ row, (columns.map Column.value).map (fun value => value row) =
      columns.map fun column => column.value row := fun _ => List.map_map
  rw [RecordBatch.rows, readAll_eq_map, ← values]
  simp only [← wide]
  constructor
  · intro same
    refine columns_of_rowsOf ?_ ?_ same
    · simpa using congrArg List.length types
    · simpa using fun array member => (heights array member).2
  · intro read
    rw [read]
    exact rowsOf_map rows (columns.map Column.value)

end VgiPprof.Arrow
