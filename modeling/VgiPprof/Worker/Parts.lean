import VgiPprof.Worker.GlobScan
import VgiPprof.Worker.ReadBack

namespace VgiPprof.Worker

open Arrow VgiPprof.Core Data

/-! One scan of many sources against many scans of a few. -/

namespace TableFunction

variable {target : Target} {table : TableFunction}

theorem WithinLimits.of_sublist {units fewer : List DecodeUnit}
    (limits : table.WithinLimits target units) (sub : fewer.Sublist units) :
    table.WithinLimits target fewer :=
  Fits.of_sublist limits ((sub.flatMap (table.unitRows target)).map Value.struct)

theorem rows_flatten (target : Target) (table : TableFunction)
    (groups : List (List DecodeUnit)) :
    table.rows target groups.flatten = groups.flatMap (table.rows target) := by
  rw [TableFunction.rows, List.flatten_eq_flatMap, List.flatMap_assoc]
  rfl

/-- Batches of groups of units, which together hold the rows of all the units. -/
theorem build_groups (groups : List (List DecodeUnit))
    (limits : ∀ group ∈ groups, table.WithinLimits target group) :
    ∃ batches, List.Forall₂ (fun group batch =>
        table.build target group table.outputSchema = .ok (.ok batch)) groups batches ∧
      batches.flatMap RecordBatch.rows = table.rows target groups.flatten := by
  induction groups with
  | nil => exact ⟨[], .nil, rfl⟩
  | cons group groups induction =>
      obtain ⟨first, others⟩ := List.forall_mem_cons.mp limits
      obtain ⟨batch, built, rows, -⟩ := table.build_of_withinLimits target group first
      obtain ⟨batches, restBuilt, rest⟩ := induction others
      refine ⟨batch :: batches, .cons built restBuilt, ?_⟩
      rw [List.flatMap_cons, rows, rest, rows_flatten, rows_flatten, List.flatMap_cons]

end TableFunction

namespace Source

variable (codec : Codec) (fs : FileSystem) {pos : Nat} {each : String → Arguments}
  {names : List String}

theorem resolve_each_name (single : ∀ name ∈ names, IsVarchar (each name) pos name)
    (self : ∀ name ∈ names, expand fs name = [name]) :
    ∀ name ∈ names, resolve codec fs (each name) pos = .ok [fileUnit codec fs name] := by
  intro name member
  rw [resolve_varchar codec fs (single name member), self name member, List.map_singleton]

/-- Scanning the files of a pattern one by one, where their names are no patterns of
anything else, needs no more room than scanning the pattern, and less is enough: it
delivers every row as soon as each file fits alone, in the order in which the pattern
delivers them when it fits as a whole. -/
theorem scan_in_parts (target : Target) (table : TableFunction) {specArgs : Arguments}
    {spec : String} (pattern : IsVarchar specArgs pos spec)
    (single : ∀ name ∈ names, IsVarchar (each name) pos name)
    (expanded : expand fs spec = names) (self : ∀ name ∈ names, expand fs name = [name]) :
    (table.WithinLimits target (names.map (fileUnit codec fs)) →
      ∀ name ∈ names, table.WithinLimits target [fileUnit codec fs name]) ∧
    ((∀ name ∈ names, table.WithinLimits target [fileUnit codec fs name]) →
      ∃ batches, List.Forall₂ (fun name batch => ∃ units,
          resolve codec fs (each name) pos = .ok units ∧
          table.build target units table.outputSchema = .ok (.ok batch)) names batches ∧
        batches.flatMap RecordBatch.rows =
          table.rows target (names.map (fileUnit codec fs)) ∧
        (table.WithinLimits target (names.map (fileUnit codec fs)) →
          ∃ units whole, resolve codec fs specArgs pos = .ok units ∧
            table.build target units table.outputSchema = .ok (.ok whole) ∧
            whole.rows = batches.flatMap RecordBatch.rows)) := by
  constructor
  · intro limits name member
    refine limits.of_sublist ?_
    exact List.singleton_sublist.mpr (List.mem_map_of_mem member)
  · intro alone
    have groupLimits : ∀ group ∈ names.map (fun name => [fileUnit codec fs name]),
        table.WithinLimits target group := by
      intro group member
      obtain ⟨name, isName, rfl⟩ := List.mem_map.mp member
      exact alone name isName
    obtain ⟨batches, built, rows⟩ := TableFunction.build_groups _ groupLimits
    have flat : (names.map fun name => [fileUnit codec fs name]).flatten =
        names.map (fileUnit codec fs) := by
      rw [← List.flatMap_def, ← List.map_eq_flatMap]
    rw [flat] at rows
    refine ⟨batches, ?_, rows, ?_⟩
    · rw [List.forall₂_map_left_iff] at built
      have resolved := resolve_each_name codec fs single self
      exact ((List.forall₂_and_left _ _).mpr ⟨resolved, built⟩).imp fun name batch both =>
        ⟨_, both.1, both.2⟩
    · intro limits
      obtain ⟨whole, wholeBuilt, wholeRows, -⟩ :=
        table.build_of_withinLimits target _ limits
      refine ⟨_, whole, ?_, wholeBuilt, wholeRows.trans rows.symm⟩
      rw [resolve_varchar codec fs pattern, expanded]

/-! Two files, scanned as a pattern and by name. -/

def timeFiles : FileSystem :=
  namedFiles ["a1.pb", "b.pb"] [] fun _ => [0x48, 0x07]

def timeUnit (name : String) : DecodeUnit :=
  ⟨some name, .ok (.ofProfile { timeNanos := 7 })⟩

def timeRow (name : String) : List Value :=
  [.list [], .int64 0, .null, .int64 0, .int64 7, .null, .utf8 name, .null]

def metaRows (units : List DecodeUnit) : Run (Except RpcError (List (List Value))) :=
  (TableFunction.metaTable.build .native units MetaTable.outputSchema).map
    fun built => built.map RecordBatch.rows

theorem metaRows_of_built {units : List DecodeUnit} {batch : RecordBatch}
    (built : TableFunction.metaTable.build .native units MetaTable.outputSchema =
      .ok (.ok batch)) : metaRows units = .ok (.ok batch.rows) := by
  rw [metaRows, built]
  rfl

theorem scan_in_parts_timeFiles :
    resolve plainCodec timeFiles (varcharArg "a1.pb") 0 = .ok [timeUnit "a1.pb"] ∧
      metaRows [timeUnit "a1.pb"] = .ok (.ok [timeRow "a1.pb"]) ∧
      resolve plainCodec timeFiles (varcharArg "b.pb") 0 = .ok [timeUnit "b.pb"] ∧
      metaRows [timeUnit "b.pb"] = .ok (.ok [timeRow "b.pb"]) ∧
      resolve plainCodec timeFiles (varcharArg "*.pb") 0 =
        .ok [timeUnit "a1.pb", timeUnit "b.pb"] ∧
      metaRows [timeUnit "a1.pb", timeUnit "b.pb"] =
        .ok (.ok [timeRow "a1.pb", timeRow "b.pb"]) := by
  have expanded : expand timeFiles "*.pb" = ["a1.pb", "b.pb"] :=
    expand_namedFiles (by decide) _ (by decide) (by decide) (by decide) (by decide)
  have literal : ∀ name ∈ ["a1.pb", "b.pb"], isGlob name = false := by decide
  have pattern : resolve plainCodec timeFiles (varcharArg "*.pb") 0 =
      .ok [timeUnit "a1.pb", timeUnit "b.pb"] := by
    rw [resolve_varchar plainCodec timeFiles (varcharArg_isVarchar _), expanded]
    rfl
  have firstAlone : metaRows [timeUnit "a1.pb"] = .ok (.ok [timeRow "a1.pb"]) := rfl
  have secondAlone : metaRows [timeUnit "b.pb"] = .ok (.ok [timeRow "b.pb"]) := rfl
  obtain ⟨-, parts⟩ := scan_in_parts plainCodec timeFiles .native .metaTable
    (varcharArg_isVarchar "*.pb") (fun name _ => varcharArg_isVarchar name) expanded
    fun name member => expand_literal (literal name member)
  obtain ⟨batches, built, -, together⟩ := parts (by decide)
  obtain ⟨units, whole, resolved, wholeBuilt, rows⟩ := together (by decide)
  obtain ⟨first, _, ⟨firstUnits, firstResolved, firstBuilt⟩, rest, rfl⟩ :=
    List.forall₂_cons_left_iff.mp built
  obtain ⟨second, _, ⟨secondUnits, secondResolved, secondBuilt⟩, nothing, rfl⟩ :=
    List.forall₂_cons_left_iff.mp rest
  cases nothing
  cases firstResolved
  cases secondResolved
  cases pattern.symm.trans resolved
  have firstRows := (metaRows_of_built firstBuilt).symm.trans firstAlone
  have secondRows := (metaRows_of_built secondBuilt).symm.trans secondAlone
  refine ⟨rfl, firstAlone, rfl, secondAlone, pattern, ?_⟩
  rw [metaRows_of_built wholeBuilt, rows, List.flatMap_cons, List.flatMap_singleton,
    Except.ok.inj (Except.ok.inj firstRows), Except.ok.inj (Except.ok.inj secondRows)]
  rfl

/-! The order in which a walk meets its files. -/

/-- The same files under the same names, met in any order and past any number of
places that cannot be read. -/
structure SameFiles (fs fs' : FileSystem) : Prop where
  read : fs.read = fs'.read
  glob : ∀ spec, Option.Rel (fun walk walk' : List (Option OsPath) =>
    walk.reduceOption.Perm walk'.reduceOption) (fs.glob spec) (fs'.glob spec)

theorem sortedNames_eq {paths paths' : List OsPath} (same : paths.Perm paths') :
    ((paths.map Utf8.toStringLossy).mergeSort fun a b => decide (a ≤ b)) =
      (paths'.map Utf8.toStringLossy).mergeSort fun a b => decide (a ≤ b) := by
  have sorted (names : List String) := List.mergeSort_perm names fun a b => decide (a ≤ b)
  refine List.Perm.eq_of_pairwise' (List.pairwise_mergeSort' _ _)
    (List.pairwise_mergeSort' _ _) ?_
  exact (sorted _).trans ((same.map _).trans (sorted _).symm)

theorem expand_of_sameWalk {fs fs' : FileSystem} {spec : String}
    (same : Option.Rel (fun walk walk' : List (Option OsPath) =>
      walk.reduceOption.Perm walk'.reduceOption) (fs.glob spec) (fs'.glob spec)) :
    expand fs spec = expand fs' spec := by
  rw [expand, expand]
  generalize fs.glob spec = found, fs'.glob spec = found' at same ⊢
  cases same with
  | none => rfl
  | some permuted => exact congrArg (ite _ · _) (sortedNames_eq permuted)

/-- A scan gives the same units whatever order the directories list their files in. -/
theorem resolve_of_sameFiles (codec : Codec) (fs fs' : FileSystem) (same : SameFiles fs fs')
    (args : Arguments) (pos : Nat) :
    resolve codec fs args pos = resolve codec fs' args pos := by
  obtain ⟨fault, always⟩ | ⟨bytes, always⟩ | ⟨specs, found⟩ := resolve_cases args pos
  · rw [always, always]
  · rw [always, always]
  · have units (path : String) : fileUnit codec fs path = fileUnit codec fs' path := by
      rw [fileUnit, fileUnit, decodeFile, decodeFile, same.read]
    have expanded (spec : String) : expand fs spec = expand fs' spec :=
      expand_of_sameWalk (same.glob spec)
    rw [resolve_of_specs codec fs found, resolve_of_specs codec fs' found,
      funext expanded, funext units]

def unsortedFiles : FileSystem :=
  { twoFiles [] with
    glob _ := some [some (Utf8.encode "b.pb"), some (Utf8.encode "a.pb")] }

/-- The same directory, listed the other way and past a bad place. -/
def relistedFiles : FileSystem :=
  { unsortedFiles with
    glob _ := some [none, some (Utf8.encode "a.pb"), some (Utf8.encode "b.pb")] }

theorem resolve_of_sameFiles_relistedFiles :
    resolve plainCodec unsortedFiles (varcharArg "*.pb") 0 =
      resolve plainCodec relistedFiles (varcharArg "*.pb") 0 := by
  have same : SameFiles unsortedFiles relistedFiles := by
    refine ⟨rfl, fun spec => Option.Rel.some ?_⟩
    simp only [List.reduceOption_cons_of_some, List.reduceOption_cons_of_none,
      List.reduceOption_nil]
    exact List.Perm.swap _ _ _
  exact resolve_of_sameFiles plainCodec _ _ same _ _

end Source

end VgiPprof.Worker
