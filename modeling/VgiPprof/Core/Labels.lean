import VgiPprof.Core.Decoded

namespace VgiPprof.Core.Decoded

open Data

/-! The label map of a sample.  Keys are compared after resolution, so the raw
indices under which two labels store one string play no part. -/

variable (target : Target) (d : Decoded)

def labelEntry (lbl : Proto.Label) : String × String :=
  (labelKey target d lbl, labelValue target d lbl)

theorem labels_eq_collect (sample : Proto.Sample) :
    labels target d sample =
      FirstWins.collect (sample.label.map (labelEntry target d)) := by
  rw [FirstWins.collect, List.foldl_map]
  rfl

theorem map_fst_labelEntry (lbls : List Proto.Label) :
    (lbls.map (labelEntry target d)).map Prod.fst =
      lbls.map (labelKey target d) := by
  rw [List.map_map]
  rfl

theorem labels_keys_nodup (sample : Proto.Sample) :
    ((labels target d sample).map Prod.fst).Nodup := by
  rw [labels_eq_collect]
  exact FirstWins.nodup_keys_collect _

theorem mem_labels_keys (sample : Proto.Sample) (key : String) :
    key ∈ (labels target d sample).map Prod.fst ↔
      key ∈ sample.label.map (labelKey target d) := by
  rw [labels_eq_collect, FirstWins.mem_keys_collect, map_fst_labelEntry]

theorem labels_firstOrdered (sample : Proto.Sample) :
    FirstOrdered (sample.label.map (labelKey target d))
      ((labels target d sample).map Prod.fst) := by
  have ordered := FirstWins.firstOrdered_collect
    (sample.label.map (labelEntry target d))
  rwa [map_fst_labelEntry, ← labels_eq_collect] at ordered

theorem find?_of_mem_labels {sample : Proto.Sample} {kept : String × String}
    (member : kept ∈ labels target d sample) :
    ∃ lbl, (sample.label.find? fun l => labelKey target d l == kept.1) = some lbl ∧
      kept.2 = labelValue target d lbl := by
  rw [labels_eq_collect] at member
  have first := FirstWins.find?_of_mem_collect member
  rw [List.find?_map, Option.map_eq_some_iff] at first
  obtain ⟨lbl, found, rfl⟩ := first
  exact ⟨lbl, found, rfl⟩

theorem labels_remove_seen (sample : Proto.Sample) (before after : List Proto.Label)
    (lbl : Proto.Label)
    (seen : labelKey target d lbl ∈ before.map (labelKey target d)) :
    labels target d { sample with label := before ++ lbl :: after } =
      labels target d { sample with label := before ++ after } := by
  simp only [labels_eq_collect, List.map_append, List.map_cons]
  apply FirstWins.collect_remove_seen
  rw [map_fst_labelEntry]
  exact seen

theorem labelValue_cases (lbl : Proto.Label) :
    (lbl.str ≠ 0 →
      labelValue target d lbl = (str target d lbl.str).getD "") ∧
    (lbl.str = 0 → ∀ unit, str target d lbl.numUnit = some unit →
      labelValue target d lbl = toString lbl.num.toInt ++ " " ++ unit) ∧
    (lbl.str = 0 → str target d lbl.numUnit = none →
      labelValue target d lbl = toString lbl.num.toInt) := by
  refine ⟨fun named => ?_, fun numeric unit resolved => ?_,
    fun numeric unresolved => ?_⟩
  · rw [labelValue, if_pos named]
  · rw [labelValue, if_neg (by simpa using numeric), resolved]
    rfl
  · rw [labelValue, if_neg (by simpa using numeric), unresolved]
    rfl

/-- Labels form a map that holds each resolved key once, in the order of first
mention, with the rendering of the first label that carries it. -/
theorem labels_first_wins (sample : Proto.Sample) :
    let keys := sample.label.map fun lbl => (str target d lbl.key).getD ""
    let out := labels target d sample
    (out.map Prod.fst).Nodup ∧
    (∀ key, key ∈ out.map Prod.fst ↔ key ∈ keys) ∧
    FirstOrdered keys (out.map Prod.fst) ∧
    (∀ kept ∈ out, ∃ lbl,
      (sample.label.find? fun l => (str target d l.key).getD "" == kept.1) = some lbl ∧
      kept.2 = labelValue target d lbl ∧
      (lbl.str ≠ 0 → kept.2 = (str target d lbl.str).getD "") ∧
      (lbl.str = 0 → ∀ unit, str target d lbl.numUnit = some unit →
        kept.2 = toString lbl.num.toInt ++ " " ++ unit) ∧
      (lbl.str = 0 → str target d lbl.numUnit = none →
        kept.2 = toString lbl.num.toInt)) ∧
    (∀ before lbl after, sample.label = before ++ lbl :: after →
      (str target d lbl.key).getD "" ∈ before.map (fun l => (str target d l.key).getD "") →
      labels target d { sample with label := before ++ after } = out) := by
  refine ⟨labels_keys_nodup target d sample, mem_labels_keys target d sample,
    labels_firstOrdered target d sample, ?_, ?_⟩
  · intro kept member
    obtain ⟨lbl, found, value⟩ := find?_of_mem_labels target d member
    refine ⟨lbl, found, value, ?_⟩
    rw [value]
    exact labelValue_cases target d lbl
  · intro before lbl after split seen
    rw [← labels_remove_seen target d sample before after lbl seen, ← split]

example :
    labels .native
      (ofProfile { stringTable := ["", "thread", "thread", "bytes"] })
      { label := [⟨1, 0, 7, 3⟩, ⟨2, 3, 0, 0⟩, ⟨9, 0, -4, 0⟩, ⟨-1, 3, 0, 0⟩] } =
    [("thread", "7 bytes"), ("", "-4")] := by decide

end VgiPprof.Core.Decoded
