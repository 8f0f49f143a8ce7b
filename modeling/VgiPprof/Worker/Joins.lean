import VgiPprof.Data.Relation
import VgiPprof.Worker.Cells

namespace VgiPprof.Worker

open Arrow VgiPprof.Core Data

/-! The tables of one scan joined with one another. -/

namespace TableFunction

/-- `USING (file, sample_id)`. -/
def fileAndSample (table : TableFunction) (row : List Value) : Option (String × Int64) := do
  let file ← text? (table.cell "file" row)
  let sampleId ← int64? (table.cell "sample_id" row)
  some (file, sampleId)

variable {target : Target} {table : TableFunction}

theorem label_of_fileAndSample {unit : DecodeUnit} {row : List Value}
    (member : row ∈ table.unitRows target unit) (key : String × Int64)
    (found : table.fileAndSample row = some key) : unit.file = some key.1 := by
  rw [fileAndSample, cell_file member, text?_ofOption] at found
  obtain ⟨file, labelled, found⟩ := Option.bind_eq_some_iff.mp found
  obtain ⟨sampleId, -, same⟩ := Option.bind_eq_some_iff.mp found
  cases same
  exact labelled

end TableFunction

open TableFunction

/-! The two tables of samples. -/

theorem columnIndex_sampleId :
    (stacksTable.outputSchema.map fieldName).idxOf "sample_id" = 0 ∧
      (samplesTable.outputSchema.map fieldName).idxOf "sample_id" = 0 := by decide

def trailing (file : Option String) : List Value :=
  [.ofOption .utf8 file, .null]

theorem fileAndSample_stack (s : StackRow) (file : Option String) :
    stacksTable.fileAndSample (stackValues s ++ trailing file) =
      file.map fun name => (name, s.sampleId) := by
  rw [fileAndSample, cell, cell, columnIndex_file, columnIndex_sampleId.1]
  cases file <;> rfl

theorem fileAndSample_sample (s : SampleRow) (file : Option String) :
    samplesTable.fileAndSample (sampleValues s ++ trailing file) =
      file.map fun name => (name, s.sampleId) := by
  rw [fileAndSample, cell, cell, columnIndex_file, columnIndex_sampleId.2]
  cases file <;> rfl

theorem fileAndSample_error (file : Option String) (msg : String) :
    stacksTable.fileAndSample (List.replicate stacksTable.dataWidth .null ++
      [.ofOption .utf8 file, .utf8 msg]) = none := by
  rw [fileAndSample, cell, cell, columnIndex_file, columnIndex_sampleId.1]
  cases file <;> rfl

theorem sampleId_injective {i j : Nat} (iBound : i < 2 ^ 64) (jBound : j < 2 ^ 64)
    (same : Int64.ofNat i + 1 = Int64.ofNat j + 1) : i = j := by
  have bits := congrArg Int64.toUInt64 ((Int64.add_left_inj 1).mp same)
  rw [Int64.toUInt64_ofNat', Int64.toUInt64_ofNat'] at bits
  have numbers := congrArg UInt64.toNat bits
  rw [UInt64.toNat_ofNat', UInt64.toNat_ofNat', Nat.mod_eq_of_lt iBound,
    Nat.mod_eq_of_lt jBound] at numbers
  exact numbers

/-- The rows of sample after sample of a good file, both tables side by side. -/
def sampleRowPairs (target : Target) (file : String) (d : Decoded) :
    List (List Value × List Value) :=
  d.profile.sample.mapIdx fun i sample =>
    (stackValues (d.stackRow target i sample) ++ trailing (some file),
      sampleValues (d.sampleRow target i sample) ++ trailing (some file))

def joinedRows (target : Target) (unit : DecodeUnit) : List (List Value × List Value) :=
  match unit.file, unit.result with
  | some file, .ok d => sampleRowPairs target file d
  | _, _ => []

theorem innerJoin_of_no_keys {α β κ : Type} [DecidableEq κ] {left : α → Option κ}
    {right : β → Option κ} {xs : List α} (ys : List β) (keyless : ∀ x ∈ xs, left x = none) :
    innerJoin left right xs ys = [] := by
  rw [innerJoin, List.flatMap_eq_nil_iff]
  intro x member
  rw [keyless x member]
  rfl

theorem innerJoin_goodUnit (target : Target) (file : String) (d : Decoded)
    (countable : d.profile.sample.length ≤ 2 ^ 64) :
    innerJoin stacksTable.fileAndSample samplesTable.fileAndSample
        ((dataRows target .stacksTable d).map (· ++ trailing (some file)))
        ((dataRows target .samplesTable d).map (· ++ trailing (some file))) =
      sampleRowPairs target file d := by
  have stackRows : (dataRows target .stacksTable d).map (· ++ trailing (some file)) =
      d.profile.sample.zipIdx.map fun pair =>
        stackValues (d.stackRow target pair.2 pair.1) ++ trailing (some file) := by
    simp only [dataRows, Decoded.stacks, List.mapIdx_eq_zipIdx_map, List.map_map]
    rfl
  have sampleRows : (dataRows target .samplesTable d).map (· ++ trailing (some file)) =
      d.profile.sample.zipIdx.map fun pair =>
        sampleValues (d.sampleRow target pair.2 pair.1) ++ trailing (some file) := by
    simp only [dataRows, Decoded.samples, List.mapIdx_eq_zipIdx_map, List.map_map]
    rfl
  have distinct : (d.profile.sample.zipIdx.map fun pair =>
      (file, Int64.ofNat pair.2 + 1)).Nodup := by
    have indices : (d.profile.sample.zipIdx.map fun pair => (file, Int64.ofNat pair.2 + 1)) =
        (List.range d.profile.sample.length).map fun i => (file, Int64.ofNat i + 1) := by
      rw [List.range_eq_range', ← List.zipIdx_map_snd 0, List.map_map]
      rfl
    rw [indices]
    refine List.Nodup.map_on (fun i iMember j jMember same => ?_) List.nodup_range
    have bound (k : Nat) (member : k ∈ List.range d.profile.sample.length) : k < 2 ^ 64 :=
      Nat.lt_of_lt_of_le (List.mem_range.mp member) countable
    exact sampleId_injective (bound i iMember) (bound j jMember) (congrArg Prod.snd same)
  rw [stackRows, sampleRows, innerJoin_aligned _ _ distinct, List.zip_map', sampleRowPairs,
    List.mapIdx_eq_zipIdx_map]
  · rw [List.map_map, List.map_map]
    exact List.map_congr_left fun pair _ => fileAndSample_stack _ _
  · rw [List.map_map, List.map_map]
    exact List.map_congr_left fun pair _ => fileAndSample_sample _ _

theorem innerJoin_unitRows (target : Target) {unit : DecodeUnit}
    (countable : ∀ d, unit.result = .ok d → d.profile.sample.length ≤ 2 ^ 64) :
    innerJoin stacksTable.fileAndSample samplesTable.fileAndSample
        (stacksTable.unitRows target unit) (samplesTable.unitRows target unit) =
      joinedRows target unit := by
  cases label : unit.file with
  | none =>
      rw [joinedRows, label]
      refine innerJoin_of_no_keys _ fun row member => ?_
      cases found : stacksTable.fileAndSample row with
      | none => rfl
      | some key =>
          have labelled := label_of_fileAndSample member key found
          rw [label] at labelled
          cases labelled
  | some file =>
      cases result : unit.result with
      | error msg =>
          rw [joinedRows, label, result]
          refine innerJoin_of_no_keys _ fun row member => ?_
          rw [unitRows, result] at member
          rw [List.mem_singleton.mp member, fileAndSample_error]
      | ok d =>
          rw [joinedRows, label, result, unitRows, unitRows, result, label]
          exact innerJoin_goodUnit target file d (countable d result)

theorem innerJoin_rows (target : Target) {units : List DecodeUnit}
    (distinct : (units.filterMap (·.file)).Nodup)
    (countable : ∀ unit ∈ units, ∀ d, unit.result = .ok d →
      d.profile.sample.length ≤ 2 ^ 64) :
    innerJoin stacksTable.fileAndSample samplesTable.fileAndSample
        (stacksTable.rows target units) (samplesTable.rows target units) =
      units.flatMap (joinedRows target) := by
  rw [rows, rows, innerJoin_partition
    (fun _ _ row member => label_of_fileAndSample member)
    (fun _ _ row member => label_of_fileAndSample member) distinct]
  exact List.flatMap_congr fun unit member =>
    innerJoin_unitRows target (countable unit member)

/-- Two joined rows measure the same thing. -/
structure SameSample (pair : List Value × List Value) : Prop where
  value : stacksTable.cell "value" pair.1 = samplesTable.cell "value" pair.2
  labels : stacksTable.cell "labels" pair.1 = samplesTable.cell "labels" pair.2

theorem columnIndex_measured :
    (stacksTable.outputSchema.map fieldName).idxOf "value" = 1 ∧
      (samplesTable.outputSchema.map fieldName).idxOf "value" = 2 ∧
      (stacksTable.outputSchema.map fieldName).idxOf "labels" = 2 ∧
      (samplesTable.outputSchema.map fieldName).idxOf "labels" = 3 := by decide

theorem sameSample_of_mem {target : Target} {unit : DecodeUnit}
    {pair : List Value × List Value} (member : pair ∈ joinedRows target unit) :
    SameSample pair := by
  unfold joinedRows at member
  split at member
  · obtain ⟨i, bound, rfl⟩ := List.mem_mapIdx.mp member
    obtain ⟨stackValue, sampleValue, stackLabels, sampleLabels⟩ := columnIndex_measured
    constructor
    · rw [cell, cell, stackValue, sampleValue]
      rfl
    · rw [cell, cell, stackLabels, sampleLabels]
      rfl
  · cases member

/-- Joining the batches of `stacks` and `samples` over one scan on file and sample id
gives each sample of each good file once, with its own row on either side; error rows
and rows without a file meet nothing. -/
theorem stacks_join_samples (target : Target) (units : List DecodeUnit)
    (distinct : (units.filterMap (·.file)).Nodup)
    (countable : ∀ unit ∈ units, ∀ d, unit.result = .ok d →
      d.profile.sample.length ≤ 2 ^ 64)
    (stackLimits : stacksTable.WithinLimits target units)
    (sampleLimits : samplesTable.WithinLimits target units) :
    ∃ stackBatch sampleBatch,
      stacksTable.build target units stacksTable.outputSchema = .ok (.ok stackBatch) ∧
      samplesTable.build target units samplesTable.outputSchema = .ok (.ok sampleBatch) ∧
      innerJoin stacksTable.fileAndSample samplesTable.fileAndSample stackBatch.rows
        sampleBatch.rows = units.flatMap (joinedRows target) ∧
      ∀ pair ∈ units.flatMap (joinedRows target), SameSample pair := by
  obtain ⟨stackBatch, stackBuilt, stackRows, -⟩ :=
    stacksTable.build_of_withinLimits target units stackLimits
  obtain ⟨sampleBatch, sampleBuilt, sampleRows, -⟩ :=
    samplesTable.build_of_withinLimits target units sampleLimits
  refine ⟨stackBatch, sampleBatch, stackBuilt, sampleBuilt, ?_, ?_⟩
  · rw [stackRows, sampleRows, innerJoin_rows target distinct countable]
  · intro pair member
    obtain ⟨unit, -, inUnit⟩ := List.mem_flatMap.mp member
    exact sameSample_of_mem inUnit

theorem stacks_join_samples_mixedUnits :
    ∃ stackBatch sampleBatch,
      stacksTable.build .native mixedUnits stacksTable.outputSchema = .ok (.ok stackBatch) ∧
      samplesTable.build .native mixedUnits samplesTable.outputSchema =
        .ok (.ok sampleBatch) ∧
      (innerJoin stacksTable.fileAndSample samplesTable.fileAndSample stackBatch.rows
        sampleBatch.rows).length = 1 := by
  have countable : ∀ unit ∈ mixedUnits, ∀ d, unit.result = .ok d →
      d.profile.sample.length ≤ 2 ^ 64 := by
    intro unit member d decoded
    simp only [mixedUnits, List.mem_cons, List.not_mem_nil, or_false] at member
    rcases member with rfl | rfl
    · cases decoded
      decide
    · cases decoded
  obtain ⟨stackBatch, sampleBatch, stackBuilt, sampleBuilt, joined, -⟩ :=
    stacks_join_samples .native mixedUnits (by decide) countable (by decide) (by decide)
  exact ⟨stackBatch, sampleBatch, stackBuilt, sampleBuilt, by rw [joined]; rfl⟩

end VgiPprof.Worker
