import Mathlib.Data.List.Nodup

namespace VgiPprof.Data

/-! Hash maps by their observable content: one entry for each live key. -/

abbrev HashMap (K V : Type) := List (K × V)

namespace HashMap

variable {K V : Type} [BEq K] [LawfulBEq K]

def get (map : HashMap K V) (key : K) : Option V :=
  (map.find? fun entry => entry.1 == key).map Prod.snd

def insert (map : HashMap K V) (key : K) (value : V) : HashMap K V :=
  (key, value) :: map.filter fun entry => !(entry.1 == key)

def collect (entries : List (K × V)) : HashMap K V :=
  entries.foldl (fun map entry => map.insert entry.1 entry.2) []

theorem get_insert_self (map : HashMap K V) (key : K) (value : V) :
    (map.insert key value).get key = some value := by
  simp [get, insert]

theorem get_insert_other (map : HashMap K V) {key other : K} (value : V)
    (distinct : key ≠ other) :
    (map.insert key value).get other = map.get other := by
  have headMisses : (key == other) = false := beq_false_of_ne distinct
  simp only [get, insert, List.find?_cons, headMisses, List.find?_filter]
  congr 2
  funext entry
  by_cases same : entry.1 = other
  · simp [same, beq_false_of_ne distinct.symm]
  · simp [beq_false_of_ne same]

/-- The last entry stored under a key wins; keys that no entry carries keep
what the accumulator already held for them. -/
private theorem get_foldl_insert (entries : List (K × V)) (map : HashMap K V)
    (key : K) :
    (entries.foldl (fun map entry => map.insert entry.1 entry.2) map).get key =
      ((entries.reverse.find? fun entry => entry.1 == key).map Prod.snd).or
        (map.get key) := by
  induction entries generalizing map with
  | nil => simp
  | cons entry rest ih =>
      rw [List.foldl_cons, ih, List.reverse_cons, List.find?_append]
      cases restFound : rest.reverse.find? fun entry => entry.1 == key with
      | some found => simp
      | none =>
          by_cases same : entry.1 = key
          · subst same
            simp [get_insert_self]
          · simp [get_insert_other _ _ same, beq_false_of_ne same]

theorem get_collect (entries : List (K × V)) (key : K) :
    (collect entries).get key =
      (entries.reverse.find? fun entry => entry.1 == key).map Prod.snd := by
  rw [collect, get_foldl_insert]
  simp [get]

end HashMap

/-! Maps from a key to the position of the element that carries it. -/

section IndexBy

variable {K α : Type} [BEq K] [LawfulBEq K]

/-- The element found for a key when later elements shadow earlier ones. -/
def lastWith (key : α → K) (xs : List α) (wanted : K) : Option α :=
  xs.reverse.find? fun x => key x == wanted

/-- Each element's key with the element's position, collected into a map.
Positions are bounded by their type, so no lookup can leave the list. -/
def indexBy (key : α → K) (xs : List α) : HashMap K (Fin xs.length) :=
  HashMap.collect ((List.finRange xs.length).map fun i => (key (xs.get i), i))

theorem indexBy_get (key : α → K) (xs : List α) (wanted : K) :
    ((indexBy key xs).get wanted).map xs.get = lastWith key xs wanted := by
  have elements : (List.finRange xs.length).map xs.get = xs := by
    simp
  calc
    ((indexBy key xs).get wanted).map xs.get =
        ((List.finRange xs.length).reverse.find? fun i =>
          key (xs.get i) == wanted).map xs.get := by
      rw [indexBy, HashMap.get_collect, ← List.map_reverse, List.find?_map,
        Option.map_map, Option.map_map]
      rfl
    _ = ((List.finRange xs.length).map xs.get).reverse.find? fun x =>
          key x == wanted := by
      rw [← List.map_reverse, List.find?_map]
      rfl
    _ = lastWith key xs wanted := by rw [elements, lastWith]

omit [LawfulBEq K] in
theorem lastWith_map {β : Type} (row : α → β) (key : β → K)
    (xs : List α) (wanted : K) :
    lastWith key (xs.map row) wanted =
      (lastWith (fun x => key (row x)) xs wanted).map row := by
  rw [lastWith, ← List.map_reverse, List.find?_map, lastWith]
  rfl

theorem lastWith_comp {L : Type} [BEq L] [LawfulBEq L] {rename : K → L}
    (injective : Function.Injective rename) (key : α → K) (xs : List α) (wanted : K) :
    lastWith (fun x => rename (key x)) xs (rename wanted) = lastWith key xs wanted := by
  unfold lastWith
  congr 1
  funext x
  by_cases same : key x = wanted
  · simp [same]
  · have renamed : rename (key x) ≠ rename wanted := fun eq => same (injective eq)
    simp [beq_false_of_ne same, beq_false_of_ne renamed]

theorem lastWith_key {key : α → K} {xs : List α} {wanted : K} {x : α}
    (found : lastWith key xs wanted = some x) : key x = wanted := by
  have matched := List.find?_some found
  simpa using matched

omit [LawfulBEq K] in
theorem lastWith_mem {key : α → K} {xs : List α} {wanted : K} {x : α}
    (found : lastWith key xs wanted = some x) : x ∈ xs :=
  List.mem_reverse.mp (List.mem_of_find?_eq_some found)

theorem lastWith_eq_none_iff {key : α → K} {xs : List α} {wanted : K} :
    lastWith key xs wanted = none ↔ ∀ x ∈ xs, key x ≠ wanted := by
  simp [lastWith]

/-- A table whose keys are pairwise distinct is read by membership alone. -/
theorem lastWith_eq_some_iff {key : α → K} {xs : List α}
    (distinct : (xs.map key).Nodup) {wanted : K} {x : α} :
    lastWith key xs wanted = some x ↔ x ∈ xs ∧ key x = wanted := by
  constructor
  · exact fun found => ⟨lastWith_mem found, lastWith_key found⟩
  · rintro ⟨member, matched⟩
    cases found : lastWith key xs wanted with
    | none => exact absurd matched (lastWith_eq_none_iff.mp found x member)
    | some other =>
        have same : other = x := List.inj_on_of_nodup_map distinct
          (lastWith_mem found) member ((lastWith_key found).trans matched.symm)
        rw [same]

theorem lastWith_perm {key : α → K} {xs ys : List α} (reordered : xs.Perm ys)
    (distinct : (xs.map key).Nodup) (wanted : K) :
    lastWith key xs wanted = lastWith key ys wanted := by
  have distinct' : (ys.map key).Nodup := (reordered.map key).nodup_iff.mp distinct
  apply Option.ext
  intro x
  rw [lastWith_eq_some_iff distinct, lastWith_eq_some_iff distinct',
    reordered.mem_iff]

end IndexBy

end VgiPprof.Data
