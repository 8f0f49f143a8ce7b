import Mathlib.Data.List.Forall2
import VgiPprof.Arrow.Array

namespace VgiPprof.Arrow

/-! Offsets against the counts they stand for. -/

/-- Each offset exceeds the one before it by exactly its count. -/
def Steps : List Nat → List Int32 → Prop
  | [], [_] => True
  | count :: counts, lo :: hi :: offsets =>
      hi.toInt = lo.toInt + count ∧ Steps counts (hi :: offsets)
  | _, _ => False

theorem Steps.length {counts : List Nat} {offsets : List Int32}
    (steps : Steps counts offsets) : offsets.length = counts.length + 1 := by
  induction counts generalizing offsets with
  | nil =>
      match offsets, steps with
      | [_], _ => rfl
  | cons count counts ih =>
      match offsets, steps with
      | lo :: hi :: offsets, steps =>
          rw [List.length_cons, ih steps.2, List.length_cons]

theorem Steps.last {counts : List Nat} {lo : Int32} {offsets : List Int32}
    (steps : Steps counts (lo :: offsets)) :
    ((lo :: offsets).getLast (List.cons_ne_nil lo offsets)).toInt =
      lo.toInt + counts.sum := by
  induction counts generalizing lo offsets with
  | nil =>
      match offsets, steps with
      | [], _ => simp
  | cons count counts ih =>
      match offsets, steps with
      | hi :: offsets, steps =>
          rw [List.getLast_cons_cons, ih steps.2, steps.1, List.sum_cons]
          omega

/-- Offsets that step by the rows' lengths cut the concatenation back into the
rows.  The elements before the first offset stay aside. -/
theorem slices_of_steps {α : Type} (rows : List (List α)) (before : List α)
    {lo : Int32} {offsets : List Int32} (start : lo.toInt = before.length)
    (steps : Steps (rows.map List.length) (lo :: offsets)) :
    slices (before ++ rows.flatten) (lo :: offsets) = rows := by
  induction rows generalizing before lo offsets with
  | nil =>
      match offsets, steps with
      | [], _ => rfl
  | cons row rows ih =>
      match offsets, steps with
      | hi :: offsets, steps =>
          obtain ⟨step, steps⟩ := steps
          have cut : slice (before ++ (row :: rows).flatten) lo hi = row := by
            have width : hi.toInt.toNat - lo.toInt.toNat = row.length := by omega
            have from_ : lo.toInt.toNat = before.length := by omega
            rw [slice, width, from_, List.drop_left, List.flatten_cons,
              List.take_left]
          have next := ih (before ++ row) (by
            rw [List.length_append]
            omega) steps
          rw [slices, cut, List.flatten_cons, ← List.append_assoc, next]

theorem slices_length {α : Type} (child : List α) (lo : Int32) (offsets : List Int32) :
    (slices child (lo :: offsets)).length = offsets.length := by
  induction offsets generalizing lo with
  | nil => rfl
  | cons hi offsets ih => rw [slices, List.length_cons, ih, List.length_cons]

theorem length_slice_le {α : Type} (child : List α) (lo hi : Int32) :
    (slice child lo hi).length ≤ hi.toInt.toNat - lo.toInt.toNat := by
  rw [slice, List.length_take]
  omega

/-- Counts that the slices cover cannot exceed the last offset, however the
offsets came about. -/
theorem sum_le_last {α : Type} (child : List α) (counts : List Nat) {lo : Int32}
    {offsets : List Int32} (nonneg : ∀ offset ∈ lo :: offsets, 0 ≤ offset)
    (sorted : (lo :: offsets).Pairwise (· ≤ ·))
    (covered : List.Forall₂ (fun count row => count ≤ row.length) counts
      (slices child (lo :: offsets))) :
    counts.sum + lo.toInt.toNat ≤
      ((lo :: offsets).getLast (List.cons_ne_nil lo offsets)).toInt.toNat := by
  induction offsets generalizing lo counts with
  | nil =>
      cases covered
      simp
  | cons hi offsets ih =>
      rw [slices] at covered
      cases covered with
      | @cons count row counts _ first rest =>
          have tail := ih counts (fun offset member => nonneg offset (by simp [member]))
            sorted.tail rest
          have ordered : lo ≤ hi := by
            cases sorted with
            | cons head _ => exact head hi (by simp)
          have width := length_slice_le child lo hi
          rw [Int32.le_iff_toInt_le] at ordered
          rw [List.getLast_cons_cons, List.sum_cons]
          omega

theorem toInt_toNat_le_i32Max (offset : Int32) : offset.toInt.toNat ≤ i32Max := by
  have := offset.toInt_lt
  simp only [i32Max]
  omega

/-! Which offsets pass the constructor. -/

theorem OffsetBuffer.new_eq_ok {offsets : List Int32} {buffer : OffsetBuffer}
    (built : OffsetBuffer.new offsets = .ok buffer) : buffer.offsets = offsets := by
  unfold OffsetBuffer.new at built
  split at built
  · cases built
    rfl
  · cases built

theorem Steps.nonneg {counts : List Nat} {lo : Int32} {offsets : List Int32}
    (start : 0 ≤ lo) (steps : Steps counts (lo :: offsets)) :
    (∀ offset ∈ lo :: offsets, lo ≤ offset) ∧ (lo :: offsets).Pairwise (· ≤ ·) := by
  induction counts generalizing lo offsets with
  | nil =>
      match offsets, steps with
      | [], _ => simp
  | cons count counts ih =>
      match offsets, steps with
      | hi :: offsets, steps =>
          obtain ⟨step, steps⟩ := steps
          have ordered : lo ≤ hi := by
            rw [Int32.le_iff_toInt_le]
            omega
          obtain ⟨above, sorted⟩ := ih (Int32.le_trans start ordered) steps
          have all : ∀ offset ∈ hi :: offsets, lo ≤ offset :=
            fun offset member => Int32.le_trans ordered (above offset member)
          refine ⟨?_, List.pairwise_cons.mpr ⟨all, sorted⟩⟩
          intro offset member
          rcases List.mem_cons.mp member with rfl | member
          · exact Int32.le_refl offset
          · exact all offset member

theorem OffsetBuffer.new_of_steps {counts : List Nat} {offsets : List Int32}
    (steps : Steps counts (0 :: offsets)) :
    ∃ buffer, OffsetBuffer.new (0 :: offsets) = .ok buffer ∧
      buffer.offsets = 0 :: offsets := by
  obtain ⟨nonneg, sorted⟩ := steps.nonneg (Int32.le_refl 0)
  have checked : (0 :: offsets).all (fun offset => decide (0 ≤ offset)) = true := by
    simpa using nonneg
  exact ⟨⟨0 :: offsets, List.cons_ne_nil _ _, nonneg, sorted⟩,
    dif_pos ⟨List.cons_ne_nil _ _, checked, sorted⟩, rfl⟩

end VgiPprof.Arrow
