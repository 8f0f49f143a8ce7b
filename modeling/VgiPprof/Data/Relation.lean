import VgiPprof.Data.HashMap

namespace VgiPprof.Data

/-! Tables as lists of rows, joined on keys that may be NULL.  NULL equals nothing,
so a row without a key joins with no row. -/

section Join

variable {α β κ : Type} [DecidableEq κ]

def matching (right : β → Option κ) (ys : List β) : Option κ → List β
  | some key => ys.filter fun y => right y = some key
  | none => []

def innerJoin (left : α → Option κ) (right : β → Option κ) (xs : List α) (ys : List β) :
    List (α × β) :=
  xs.flatMap fun x => (matching right ys (left x)).map fun y => (x, y)

def leftJoin (left : α → Option κ) (right : β → Option κ) (xs : List α) (ys : List β) :
    List (α × Option β) :=
  xs.flatMap fun x =>
    match matching right ys (left x) with
    | [] => [(x, none)]
    | found => found.map fun y => (x, some y)

variable {left : α → Option κ} {right : β → Option κ}

theorem matching_append (ys zs : List β) (key : Option κ) :
    matching right (ys ++ zs) key = matching right ys key ++ matching right zs key := by
  cases key with
  | none => rfl
  | some key => exact List.filter_append ..

theorem matching_eq_nil {ys : List β} {key : Option κ}
    (apart : ∀ y ∈ ys, ∀ wanted, key = some wanted → right y ≠ some wanted) :
    matching right ys key = [] := by
  cases key with
  | none => rfl
  | some wanted =>
      rw [matching, List.filter_eq_nil_iff]
      intro y member
      simpa using apart y member wanted rfl

theorem innerJoin_append_left (xs more : List α) (ys : List β) :
    innerJoin left right (xs ++ more) ys =
      innerJoin left right xs ys ++ innerJoin left right more ys :=
  List.flatMap_append

theorem innerJoin_append_of_apart {xs : List α} {ys zs : List β}
    (apart : ∀ x ∈ xs, matching right zs (left x) = []) :
    innerJoin left right xs (ys ++ zs) = innerJoin left right xs ys ∧
      innerJoin left right xs (zs ++ ys) = innerJoin left right xs ys := by
  constructor
  · refine List.flatMap_congr fun x member => ?_
    rw [matching_append, apart x member, List.append_nil]
  · refine List.flatMap_congr fun x member => ?_
    rw [matching_append, apart x member, List.nil_append]

/-- Where every key starts with the label of the part its row comes from, and no two
parts share a label, the join of the whole tables is the joins of the parts. -/
theorem innerJoin_partition {σ τ : Type} [DecidableEq τ] {label : σ → Option τ}
    {lefts : σ → List α} {rights : σ → List β} {left : α → Option (τ × κ)}
    {right : β → Option (τ × κ)} {parts : List σ}
    (leftLabel : ∀ part ∈ parts, ∀ x ∈ lefts part, ∀ key, left x = some key →
      label part = some key.1)
    (rightLabel : ∀ part ∈ parts, ∀ y ∈ rights part, ∀ key, right y = some key →
      label part = some key.1)
    (distinct : (parts.filterMap label).Nodup) :
    innerJoin left right (parts.flatMap lefts) (parts.flatMap rights) =
      parts.flatMap fun part => innerJoin left right (lefts part) (rights part) := by
  induction parts with
  | nil => rfl
  | cons part parts induction =>
      -- the label of the first part is met in no other
      have elsewhere : ∀ other ∈ parts, ∀ name, label part = some name →
          label other ≠ some name := by
        intro other member name named same
        rw [List.filterMap_cons_some named, List.nodup_cons] at distinct
        exact distinct.1 (List.mem_filterMap.mpr ⟨other, member, same⟩)
      have later : (parts.filterMap label).Nodup := by
        cases named : label part with
        | none => rwa [List.filterMap_cons_none named] at distinct
        | some name =>
            rw [List.filterMap_cons_some named] at distinct
            exact distinct.of_cons
      have firstApart : ∀ x ∈ lefts part,
          matching right (parts.flatMap rights) (left x) = [] := by
        intro x member
        refine matching_eq_nil fun y inOther wanted found same => ?_
        obtain ⟨other, otherMember, inRights⟩ := List.mem_flatMap.mp inOther
        exact elsewhere other otherMember wanted.1
          (leftLabel part List.mem_cons_self x member wanted found)
          (rightLabel other (List.mem_cons_of_mem _ otherMember) y inRights wanted same)
      have restApart : ∀ x ∈ parts.flatMap lefts,
          matching right (rights part) (left x) = [] := by
        intro x inOther
        refine matching_eq_nil fun y member wanted found same => ?_
        obtain ⟨other, otherMember, inLefts⟩ := List.mem_flatMap.mp inOther
        exact elsewhere other otherMember wanted.1
          (rightLabel part List.mem_cons_self y member wanted same)
          (leftLabel other (List.mem_cons_of_mem _ otherMember) x inLefts wanted found)
      rw [List.flatMap_cons, List.flatMap_cons, List.flatMap_cons, innerJoin_append_left,
        (innerJoin_append_of_apart firstApart).1, (innerJoin_append_of_apart restApart).2,
        induction (fun other member => leftLabel other (List.mem_cons_of_mem _ member))
          (fun other member => rightLabel other (List.mem_cons_of_mem _ member)) later]

theorem innerJoin_cons (x : α) (xs : List α) (ys : List β) :
    innerJoin left right (x :: xs) ys =
      ((matching right ys (left x)).map fun y => (x, y)) ++ innerJoin left right xs ys :=
  List.flatMap_cons

/-- Two tables that carry the same distinct keys in the same order join row by row. -/
theorem innerJoin_aligned {xs : List α} {ys : List β} {keys : List κ}
    (leftKeys : xs.map left = keys.map some) (rightKeys : ys.map right = keys.map some)
    (distinct : keys.Nodup) : innerJoin left right xs ys = xs.zip ys := by
  induction keys generalizing xs ys with
  | nil =>
      cases List.map_eq_nil_iff.mp leftKeys
      rfl
  | cons key keys induction =>
      obtain ⟨x, xs, rfl, xKey, leftKeys⟩ := List.map_eq_cons_iff.mp leftKeys
      obtain ⟨y, ys, rfl, yKey, rightKeys⟩ := List.map_eq_cons_iff.mp rightKeys
      obtain ⟨fresh, distinct⟩ := List.nodup_cons.mp distinct
      have rightFresh : ∀ other ∈ ys, right other ≠ some key := by
        intro other member same
        have inKeys : some key ∈ keys.map some :=
          rightKeys ▸ same ▸ List.mem_map_of_mem member
        exact fresh (by simpa using inKeys)
      have leftFresh : ∀ other ∈ xs, left other ≠ some key := by
        intro other member same
        have inKeys : some key ∈ keys.map some :=
          leftKeys ▸ same ▸ List.mem_map_of_mem member
        exact fresh (by simpa using inKeys)
      have first : matching right (y :: ys) (left x) = [y] := by
        rw [xKey, matching, List.filter_cons_of_pos (by simpa using yKey),
          List.filter_eq_nil_iff.mpr fun other member => by simpa using rightFresh other member]
      have others : ∀ other ∈ xs, matching right [y] (left other) = [] := by
        intro other member
        refine matching_eq_nil fun candidate isFirst wanted found same => ?_
        rw [List.mem_singleton.mp isFirst, yKey] at same
        exact leftFresh other member (found.trans same.symm)
      have rest : innerJoin left right xs (y :: ys) = innerJoin left right xs ys :=
        (innerJoin_append_of_apart others).2
      rw [innerJoin_cons, first, rest, induction leftKeys rightKeys distinct]
      rfl

end Join

/-! Joins against a table whose keys are distinct: each row meets at most one. -/

section Lookup

variable {α β κ : Type} [DecidableEq κ] {key : β → κ} {ys : List β}

theorem matching_distinct (distinct : (ys.map key).Nodup) (wanted : Option κ) :
    matching (fun y => some (key y)) ys wanted =
      (wanted.bind fun wanted => lastWith key ys wanted).toList := by
  cases wanted with
  | none => rfl
  | some wanted =>
      rw [matching, Option.bind_some]
      induction ys with
      | nil => rfl
      | cons y ys induction =>
          obtain ⟨fresh, distinct'⟩ := List.nodup_cons.mp distinct
          have rest := induction distinct'
          by_cases same : key y = wanted
          · subst same
            have missed : lastWith key ys (key y) = none :=
              lastWith_eq_none_iff.mpr fun other member equal =>
                fresh (equal ▸ List.mem_map_of_mem member)
            have found : lastWith key (y :: ys) (key y) = some y :=
              (lastWith_eq_some_iff distinct).mpr ⟨List.mem_cons_self, rfl⟩
            rw [missed] at rest
            rw [found, List.filter_cons_of_pos (by simp), rest]
            rfl
          · have step : lastWith key (y :: ys) wanted = lastWith key ys wanted := by
              rw [lastWith, List.reverse_cons, List.find?_append, lastWith]
              simp [same]
            rw [step, List.filter_cons_of_neg (by simpa using same), rest]

theorem innerJoin_distinct (distinct : (ys.map key).Nodup) (left : α → Option κ)
    (xs : List α) :
    innerJoin left (fun y => some (key y)) xs ys =
      xs.filterMap fun x => ((left x).bind fun wanted => lastWith key ys wanted).map
        fun y => (x, y) := by
  rw [innerJoin, List.filterMap_eq_flatMap_toList]
  refine List.flatMap_congr fun x _ => ?_
  rw [matching_distinct distinct]
  cases (left x).bind fun wanted => lastWith key ys wanted <;> rfl

theorem leftJoin_distinct (distinct : (ys.map key).Nodup) (left : α → Option κ)
    (xs : List α) :
    leftJoin left (fun y => some (key y)) xs ys =
      xs.map fun x => (x, (left x).bind fun wanted => lastWith key ys wanted) := by
  rw [leftJoin, List.map_eq_flatMap]
  refine List.flatMap_congr fun x _ => ?_
  rw [matching_distinct distinct]
  generalize ((left x).bind fun wanted => lastWith key ys wanted) = found
  cases found <;> rfl

end Lookup

end VgiPprof.Data
