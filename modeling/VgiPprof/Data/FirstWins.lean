import Mathlib.Data.List.Induction
import Mathlib.Data.List.Nodup

namespace VgiPprof.Data

/-! Association lists filled by "push unless the key is already there". -/

namespace FirstWins

variable {K V : Type} [BEq K] [LawfulBEq K]

def push (out : List (K × V)) (entry : K × V) : List (K × V) :=
  if !(out.any fun seen => seen.1 == entry.1) then out ++ [entry] else out

def collect (entries : List (K × V)) : List (K × V) :=
  entries.foldl push []

omit [LawfulBEq K] in
@[simp] theorem collect_nil : collect ([] : List (K × V)) = [] := rfl

omit [LawfulBEq K] in
theorem collect_append (entries more : List (K × V)) :
    collect (entries ++ more) = more.foldl push (collect entries) := by
  rw [collect, List.foldl_append, collect]

omit [LawfulBEq K] in
theorem collect_concat (entries : List (K × V)) (entry : K × V) :
    collect (entries ++ [entry]) = push (collect entries) entry := by
  rw [collect_append, List.foldl_cons, List.foldl_nil]

theorem push_seen {out : List (K × V)} {entry : K × V}
    (seen : entry.1 ∈ out.map Prod.fst) : push out entry = out := by
  obtain ⟨old, member, same⟩ := List.mem_map.mp seen
  have found : (out.any fun seen => seen.1 == entry.1) = true :=
    List.any_eq_true.mpr ⟨old, member, by simp [same]⟩
  simp [push, found]

theorem push_fresh {out : List (K × V)} {entry : K × V}
    (fresh : entry.1 ∉ out.map Prod.fst) : push out entry = out ++ [entry] := by
  have missed : (out.any fun seen => seen.1 == entry.1) = false := by
    rw [List.any_eq_false]
    intro old member matched
    exact fresh (List.mem_map.mpr ⟨old, member, eq_of_beq matched⟩)
  simp [push, missed]

theorem mem_keys_push {out : List (K × V)} {entry : K × V} {key : K} :
    key ∈ (push out entry).map Prod.fst ↔
      key ∈ out.map Prod.fst ∨ key = entry.1 := by
  by_cases seen : entry.1 ∈ out.map Prod.fst
  · rw [push_seen seen]
    constructor
    · exact Or.inl
    · rintro (member | rfl)
      · exact member
      · exact seen
  · rw [push_fresh seen, List.map_append, List.mem_append]
    simp

theorem mem_keys_collect {entries : List (K × V)} {key : K} :
    key ∈ (collect entries).map Prod.fst ↔ key ∈ entries.map Prod.fst := by
  induction entries using List.reverseRecOn with
  | nil => simp
  | append_singleton entries entry ih =>
      rw [collect_concat, mem_keys_push, ih, List.map_append, List.mem_append]
      simp

/-- An entry offered under a key already seen changes nothing, now or later. -/
theorem collect_remove_seen (before after : List (K × V)) (entry : K × V)
    (seen : entry.1 ∈ before.map Prod.fst) :
    collect (before ++ entry :: after) = collect (before ++ after) := by
  rw [collect_append, collect_append, List.foldl_cons,
    push_seen (mem_keys_collect.mpr seen)]

theorem nodup_keys_collect (entries : List (K × V)) :
    ((collect entries).map Prod.fst).Nodup := by
  induction entries using List.reverseRecOn with
  | nil => simp
  | append_singleton entries entry ih =>
      rw [collect_concat]
      by_cases seen : entry.1 ∈ (collect entries).map Prod.fst
      · rwa [push_seen seen]
      · rw [push_fresh seen, List.map_append]
        exact List.nodup_append.mpr ⟨ih, by simp, by
          intro old member new isNew same
          have : new = entry.1 := by simpa using isNew
          exact seen (this ▸ same ▸ member)⟩

/-- Each entry kept is the first one offered under its key. -/
theorem find?_of_mem_collect {entries : List (K × V)} {kept : K × V}
    (member : kept ∈ collect entries) :
    (entries.find? fun entry => entry.1 == kept.1) = some kept := by
  induction entries using List.reverseRecOn with
  | nil => simp at member
  | append_singleton entries entry ih =>
      rw [collect_concat] at member
      rw [List.find?_append]
      by_cases seen : entry.1 ∈ (collect entries).map Prod.fst
      · rw [push_seen seen] at member
        rw [ih member, Option.some_or]
      · rw [push_fresh seen, List.mem_append] at member
        rcases member with old | new
        · rw [ih old, Option.some_or]
        · have isEntry : kept = entry := by simpa using new
          subst isEntry
          have missed : (entries.find? fun entry => entry.1 == kept.1) = none := by
            rw [List.find?_eq_none]
            intro entry member matched
            exact seen (mem_keys_collect.mpr
              (List.mem_map.mpr ⟨entry, member, eq_of_beq matched⟩))
          rw [missed]
          simp

end FirstWins

def FirstOrdered {K : Type} [BEq K] (offered keys : List K) : Prop :=
  keys.Pairwise fun earlier later => offered.idxOf earlier < offered.idxOf later

namespace FirstWins

variable {K V : Type} [BEq K] [LawfulBEq K]

theorem firstOrdered_collect (entries : List (K × V)) :
    FirstOrdered (entries.map Prod.fst) ((collect entries).map Prod.fst) := by
  induction entries using List.reverseRecOn with
  | nil => simp [FirstOrdered]
  | append_singleton entries entry ih =>
      -- Offering one more key moves no first occurrence of the earlier keys.
      have earlier : FirstOrdered ((entries ++ [entry]).map Prod.fst)
          ((collect entries).map Prod.fst) := by
        refine List.Pairwise.imp_of_mem ?_ ih
        intro a b aMember bMember ordered
        rw [List.map_append, List.idxOf_append_of_mem (mem_keys_collect.mp aMember),
          List.idxOf_append_of_mem (mem_keys_collect.mp bMember)]
        exact ordered
      rw [collect_concat]
      by_cases seen : entry.1 ∈ (collect entries).map Prod.fst
      · rwa [push_seen seen]
      · have keys : (collect entries ++ [entry]).map Prod.fst =
            (collect entries).map Prod.fst ++ [entry.1] := by simp
        rw [push_fresh seen, keys]
        refine List.pairwise_append.mpr ⟨earlier, by simp, ?_⟩
        intro old member new isNew
        have isEntry : new = entry.1 := by simpa using isNew
        subst isEntry
        have oldOffered := mem_keys_collect.mp member
        have newFresh : entry.1 ∉ entries.map Prod.fst :=
          fun offered => seen (mem_keys_collect.mpr offered)
        rw [List.map_append, List.idxOf_append_of_mem oldOffered,
          List.idxOf_append_of_notMem newFresh]
        have := List.idxOf_lt_length_of_mem oldOffered
        omega

end FirstWins

end VgiPprof.Data
