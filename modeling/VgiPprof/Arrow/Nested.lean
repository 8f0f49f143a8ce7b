import VgiPprof.Arrow.Offsets

namespace VgiPprof.Arrow

/-! Tables by rows and by columns. -/

theorem rowsOf_map {α : Type} (items : List α) (columns : List (α → Value)) :
    rowsOf items.length (columns.map fun column => items.map column) =
      items.map fun item => columns.map fun column => column item := by
  apply List.ext_getElem
  · simp [rowsOf]
  · intro i left right
    have bound : i < items.length := by simpa using right
    simp only [rowsOf, List.getElem_map, List.getElem_range, List.map_map]
    apply List.map_congr_left
    intro column _
    simp [bound]

theorem columns_of_rowsOf {α : Type} {items : List α} {columns : List (α → Value)}
    {built : List (List Value)} (width : built.length = columns.length)
    (height : ∀ column ∈ built, column.length = items.length)
    (same : rowsOf items.length built =
      items.map fun item => columns.map fun column => column item) :
    built = columns.map fun column => items.map column := by
  apply List.ext_getElem
  · simpa using width
  · intro j left right
    have columnBound : j < columns.length := by simpa using right
    rw [List.getElem_map]
    apply List.ext_getElem
    · rw [List.length_map]
      exact height _ (List.getElem_mem left)
    · intro i iLeft iRight
      have rowBound : i < items.length := by simpa using iRight
      have rows := congrArg (fun rows : List (List Value) => rows[i]?) same
      simp only [rowsOf, List.getElem?_map, List.getElem?_range rowBound,
        Option.map_some, List.getElem?_eq_getElem rowBound, Option.some.injEq] at rows
      have cells := congrArg (fun row : List Value => row[j]?) rows
      simp only [List.getElem?_map, List.getElem?_eq_getElem left,
        List.getElem?_eq_getElem columnBound, Option.map_some, Option.some.injEq,
        List.getD_eq_getElem?_getD, List.getElem?_eq_getElem iLeft,
        Option.getD_some] at cells
      rw [cells, List.getElem_map]

theorem mask_isSome {α : Type} {below : Option α → Value} {wrap : α → Value}
    (rows : List (Option α)) (agree : ∀ x, below (some x) = wrap x) :
    mask (some (rows.map (·.isSome))) (rows.map below) =
      rows.map (Value.ofOption wrap) := by
  induction rows with
  | nil => rfl
  | cons row rows ih =>
      simp only [mask, List.map_cons, List.zipWith_cons_cons] at ih ⊢
      rw [ih]
      cases row with
      | none => rfl
      | some x => rw [agree]; rfl

theorem length_mask {valid : List Bool} {rows : List Value}
    (same : rows.length = valid.length) : (mask (some valid) rows).length = valid.length := by
  rw [mask, List.length_zipWith, same, Nat.min_self]

/-! Lists and maps over the elements of their rows. -/

/-- The elements of row `i`, none where the row is NULL. -/
def rowElements {α : Type} (rows : List (Option (List α))) : List (List α) :=
  rows.map (·.getD [])

theorem read_of_steps {α : Type} {encode : α → Value} {wrap : List Value → Value}
    {rows : List (Option (List α))} {offsets : List Int32}
    (steps : Steps ((rowElements rows).map List.length) (0 :: offsets)) :
    mask (some (rows.map (·.isSome)))
        ((slices ((rowElements rows).flatten.map encode) (0 :: offsets)).map wrap) =
      rows.map (Value.ofOption fun xs => wrap (xs.map encode)) := by
  have flat : (rowElements rows).flatten.map encode =
      [] ++ ((rowElements rows).map (List.map encode)).flatten := by
    rw [List.map_flatten, List.nil_append]
  have lengths : ((rowElements rows).map (List.map encode)).map List.length =
      (rowElements rows).map List.length := by
    simp [Function.comp_def]
  rw [flat, slices_of_steps _ [] rfl (lengths ▸ steps), rowElements, List.map_map,
    List.map_map]
  exact mask_isSome rows fun xs => rfl

/-- Where a list column reads back right, its slices cover its rows. -/
theorem covered_of_read {α : Type} {encode : α → Value} {wrap : List Value → Value}
    (wrap_injective : Function.Injective wrap) {rows : List (Option (List α))}
    {pieces : List (List Value)} (height : pieces.length = rows.length)
    (read : mask (some (rows.map (·.isSome))) (pieces.map wrap) =
      rows.map (Value.ofOption fun xs => wrap (xs.map encode))) :
    List.Forall₂ (fun count piece => count ≤ piece.length)
      ((rowElements rows).map List.length) pieces := by
  induction rows generalizing pieces with
  | nil =>
      cases pieces with
      | nil => exact .nil
      | cons piece pieces => cases height
  | cons row rows ih =>
      cases pieces with
      | nil => cases height
      | cons piece pieces =>
          simp only [mask, List.map_cons, List.zipWith_cons_cons, List.cons.injEq] at read
          refine .cons ?_ (ih (Nat.succ.inj height) read.2)
          cases row with
          | none => exact Nat.zero_le _
          | some xs =>
              have same : piece = xs.map encode := wrap_injective read.1
              rw [same, List.length_map]
              exact Nat.le_refl _

theorem length_le_of_read {α : Type} {encode : α → Value} {wrap : List Value → Value}
    (wrap_injective : Function.Injective wrap) {rows : List (Option (List α))}
    {child : List Value} {buffer : OffsetBuffer} {offsets : List Int32}
    (offsetsEq : buffer.offsets = 0 :: offsets) (height : offsets.length = rows.length)
    (read : mask (some (rows.map (·.isSome)))
        ((slices child buffer.offsets).map wrap) =
      rows.map (Value.ofOption fun xs => wrap (xs.map encode))) :
    (rowElements rows).flatten.length ≤ i32Max := by
  rw [offsetsEq] at read
  have covered := covered_of_read wrap_injective
    ((slices_length child 0 offsets).trans height) read
  have bound := sum_le_last child _ (offsetsEq ▸ buffer.nonneg)
    (offsetsEq ▸ buffer.sorted) covered
  have limit := toInt_toNat_le_i32Max
    ((0 :: offsets).getLast (List.cons_ne_nil 0 offsets))
  rw [List.length_flatten]
  omega

end VgiPprof.Arrow
