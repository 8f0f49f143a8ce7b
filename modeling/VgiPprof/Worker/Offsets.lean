import VgiPprof.Arrow.Offsets
import VgiPprof.Worker.ArrowBuild

namespace VgiPprof.Worker.ArrowBuild

open Arrow VgiPprof.Core Data

/-! What `offsets_and_nulls` computes in 32 bits against what it counts. -/

def runningTotals (total : Int32) : List (Option Nat) → List Int32
  | [] => []
  | count :: counts =>
      let next := total + Int32.ofNat (count.getD 0)
      next :: runningTotals next counts

def size (counts : List (Option Nat)) : Nat :=
  (counts.map (·.getD 0)).sum

theorem foldl_offsetsStep_offsets (counts : List (Option Nat)) (state : OffsetsState) :
    (counts.foldl offsetsStep state).offsets =
      state.offsets ++ runningTotals state.total counts := by
  induction counts generalizing state with
  | nil => simp [runningTotals]
  | cons count counts ih =>
      rw [List.foldl_cons, ih]
      cases count <;> simp [offsetsStep, runningTotals]

theorem foldl_offsetsStep_valid (counts : List (Option Nat)) (state : OffsetsState) :
    (counts.foldl offsetsStep state).valid =
      state.valid ++ counts.map (·.isSome) := by
  induction counts generalizing state with
  | nil => simp
  | cons count counts ih =>
      rw [List.foldl_cons, ih]
      cases count <;> simp [offsetsStep]

theorem length_runningTotals (counts : List (Option Nat)) (total : Int32) :
    (runningTotals total counts).length = counts.length := by
  induction counts generalizing total with
  | nil => rfl
  | cons count counts ih => rw [runningTotals, List.length_cons, ih, List.length_cons]

theorem offsetsAndNulls_eq_ok {counts : List (Option Nat)} {offsets : OffsetBuffer}
    {nulls : List Bool} (built : offsetsAndNulls counts = .ok (offsets, nulls)) :
    offsets.offsets = 0 :: runningTotals 0 counts ∧
      nulls = counts.map (·.isSome) := by
  have offsetsEq := foldl_offsetsStep_offsets counts ⟨[0], [], 0⟩
  have validEq := foldl_offsetsStep_valid counts ⟨[0], [], 0⟩
  unfold offsetsAndNulls at built
  cases accepted : OffsetBuffer.new (counts.foldl offsetsStep ⟨[0], [], 0⟩).offsets with
  | error panic =>
      simp only [accepted] at built
      cases built
  | ok buffer =>
      simp only [accepted] at built
      cases built
      exact ⟨(OffsetBuffer.new_eq_ok accepted).trans offsetsEq, validEq⟩

theorem toInt_add_ofNat {total : Int32} {n : Nat} (nonneg : 0 ≤ total.toInt)
    (room : total.toInt + n ≤ i32Max) :
    (total + Int32.ofNat n).toInt = total.toInt + n := by
  simp only [i32Max] at room
  have count : (Int32.ofNat n).toInt = n := Int32.toInt_ofNat_of_lt (by omega)
  rw [Int32.toInt_add, count]
  apply Int.bmod_eq_of_le <;> omega

theorem steps_runningTotals {counts : List (Option Nat)} {total : Int32}
    (nonneg : 0 ≤ total.toInt) (room : total.toInt + size counts ≤ i32Max) :
    Steps (counts.map (·.getD 0)) (total :: runningTotals total counts) := by
  induction counts generalizing total with
  | nil => exact trivial
  | cons count counts ih =>
      have split : size (count :: counts) = count.getD 0 + size counts := by
        simp [size]
      rw [split] at room
      have next := toInt_add_ofNat nonneg (n := count.getD 0) (by omega)
      exact ⟨next, ih (by omega) (by omega)⟩

theorem offsetsAndNulls_of_fits (counts : List (Option Nat))
    (room : size counts ≤ i32Max) :
    ∃ offsets, offsetsAndNulls counts = .ok (offsets, counts.map (·.isSome)) ∧
      offsets.offsets = 0 :: runningTotals 0 counts ∧
      Steps (counts.map (·.getD 0)) (0 :: runningTotals 0 counts) := by
  have steps : Steps (counts.map (·.getD 0)) (0 :: runningTotals 0 counts) :=
    steps_runningTotals (by decide) (by simpa using room)
  obtain ⟨buffer, accepted, offsets⟩ := OffsetBuffer.new_of_steps steps
  refine ⟨buffer, ?_, offsets, steps⟩
  have offsetsEq := foldl_offsetsStep_offsets counts ⟨[0], [], 0⟩
  have validEq := foldl_offsetsStep_valid counts ⟨[0], [], 0⟩
  rw [offsetsAndNulls, offsetsEq, validEq]
  simp only [List.singleton_append, List.nil_append, accepted]
  rfl

/-- Offsets that step by the counts, from however many rows, come out exactly
when the counts add up to something 32 bits can hold. -/
theorem offsetsAndNulls_steps_iff (counts : List (Option Nat)) :
    (∃ offsets nulls, offsetsAndNulls counts = .ok (offsets, nulls) ∧
      Steps (counts.map (·.getD 0)) offsets.offsets) ↔ size counts ≤ i32Max := by
  constructor
  · rintro ⟨offsets, nulls, built, steps⟩
    rw [(offsetsAndNulls_eq_ok built).1] at steps
    have last := steps.last
    have limit := toInt_toNat_le_i32Max
      ((0 :: runningTotals 0 counts).getLast (List.cons_ne_nil _ _))
    have start : (0 : Int32).toInt = 0 := rfl
    rw [last, start, Int.zero_add, Int.toNat_natCast] at limit
    exact limit
  · intro room
    obtain ⟨offsets, built, offsetsEq, steps⟩ := offsetsAndNulls_of_fits counts room
    exact ⟨offsets, _, built, offsetsEq ▸ steps⟩

end VgiPprof.Worker.ArrowBuild
