import VgiPprof.Core.ProtoDecode
import VgiPprof.Worker.ReadBack

namespace VgiPprof.Worker

open VgiPprof.Core Data

/-! Sources do not affect one another. -/

namespace Source

/-! The shapes the argument takes. -/

def IsVarchar (args : Arguments) (pos : Nat) (s : String) : Prop :=
  args.constStr pos = some s

def IsList (args : Arguments) (pos : Nat) (xs : List (Option String)) : Prop :=
  args.constStr pos = none ∧
    ∃ elems, (elems = .utf8 xs ∨ elems = .largeUtf8 xs) ∧
      (args.arg pos = some (.list elems) ∨ args.arg pos = some (.largeList elems))

def IsBlob (args : Arguments) (pos : Nat) (bytes : Bytes) : Prop :=
  args.constStr pos = none ∧
    (args.arg pos = some (.binary (some bytes)) ∨
      args.arg pos = some (.largeBinary (some bytes)) ∨
      args.arg pos = some (.binaryView (some bytes)))

variable {args : Arguments} {pos : Nat}

theorem IsVarchar.pathSpecs {s : String} (varchar : IsVarchar args pos s) :
    pathSpecs args pos = .ok (some [s]) := by
  unfold IsVarchar at varchar
  rw [Source.pathSpecs, varchar]

theorem IsList.pathSpecs {xs : List (Option String)} (list : IsList args pos xs) :
    pathSpecs args pos = .ok (some (xs.filterMap id)) := by
  obtain ⟨notString, elems, encoding, argument⟩ := list
  rw [Source.pathSpecs, notString]
  rcases encoding with rfl | rfl <;> rcases argument with found | found <;> rw [found]

theorem IsBlob.pathSpecs {bytes : Bytes} (blob : IsBlob args pos bytes) :
    pathSpecs args pos = .ok none ∧ blobBytes args pos = some bytes := by
  obtain ⟨notString, argument⟩ := blob
  rw [Source.pathSpecs, blobBytes, notString]
  rcases argument with found | found | found <;> rw [found] <;> exact ⟨rfl, rfl⟩

/-! What `resolve` does with path specs. -/

variable (codec : Codec) (fs : FileSystem)

def fileUnit (path : String) : DecodeUnit :=
  ⟨some path, decodeFile codec fs path⟩

theorem resolve_of_specs {specs : List String}
    (found : pathSpecs args pos = .ok (some specs)) :
    resolve codec fs args pos =
      .ok ((specs.flatMap (expand fs)).map (fileUnit codec fs)) := by
  have inner (units : List DecodeUnit) (spec : String) :
      (expand fs spec).foldl (fun units path =>
        units ++ [⟨some path, decodeFile codec fs path⟩]) units =
          units ++ (expand fs spec).map (fileUnit codec fs) := foldl_push ..
  rw [resolve, found, List.map_flatMap]
  simp only [inner, foldl_extend]
  rfl

/-- What the argument alone decides: an error, a decode of its own bytes, or the
specs to expand. -/
theorem resolve_cases (args : Arguments) (pos : Nat) :
    (∃ error, ∀ codec fs, resolve codec fs args pos = .error error) ∨
    (∃ bytes, ∀ codec fs,
      resolve codec fs args pos = .ok [⟨none, decodeBytes codec bytes⟩]) ∨
    ∃ specs, pathSpecs args pos = .ok (some specs) := by
  cases found : pathSpecs args pos with
  | error error =>
      refine .inl ⟨error, fun codec fs => ?_⟩
      rw [resolve, found]
      rfl
  | ok specs =>
      cases specs with
      | some specs => exact .inr (.inr ⟨specs, rfl⟩)
      | none =>
          cases blob : blobBytes args pos with
          | none =>
              refine .inl ⟨.valueError "profile source BLOB was NULL or empty",
                fun codec fs => ?_⟩
              rw [resolve, found]
              simp only [bind, Except.bind, blob]
          | some bytes =>
              refine .inr (.inl ⟨bytes, fun codec fs => ?_⟩)
              rw [resolve, found]
              simp only [bind, Except.bind, blob]

theorem resolve_of_blob {bytes : Bytes} (blob : IsBlob args pos bytes) :
    resolve codec fs args pos = .ok [⟨none, decodeBytes codec bytes⟩] := by
  rw [resolve, blob.pathSpecs.1]
  simp only [bind, Except.bind, blob.pathSpecs.2]

theorem resolve_eq_error (fs' : FileSystem) {error : RpcError}
    (failed : resolve codec fs args pos = .error error) :
    resolve codec fs' args pos = .error error := by
  obtain ⟨fault, always⟩ | ⟨bytes, always⟩ | ⟨specs, found⟩ := resolve_cases args pos
  · rw [always codec fs] at failed
    rw [always codec fs', failed]
  · rw [always codec fs] at failed
    cases failed
  · rw [resolve_of_specs codec fs found] at failed
    cases failed

theorem result_of_file {units : List DecodeUnit} {unit : DecodeUnit} {path : String}
    (resolved : resolve codec fs args pos = .ok units) (member : unit ∈ units)
    (label : unit.file = some path) : unit.result = decodeFile codec fs path := by
  obtain ⟨fault, always⟩ | ⟨bytes, always⟩ | ⟨specs, found⟩ := resolve_cases args pos
  · rw [always codec fs] at resolved
    cases resolved
  · rw [always codec fs] at resolved
    cases resolved
    cases List.mem_singleton.mp member
    cases label
  · rw [resolve_of_specs codec fs found] at resolved
    cases resolved
    obtain ⟨other, -, rfl⟩ := List.mem_map.mp member
    cases label
    rfl

theorem decodeFile_eq_ok_iff (path : String) (d : Decoded) :
    decodeFile codec fs path = .ok d ↔ ∃ bytes, fs.read (Utf8.encode path) = .ok bytes ∧
      Decoded.fromBytes codec bytes = .ok d := by
  have decoded (bytes : Bytes) : decodeBytes codec bytes = .ok d ↔
      Decoded.fromBytes codec bytes = .ok d := by
    rw [decodeBytes]
    cases Decoded.fromBytes codec bytes <;> simp [Except.mapError]
  rw [decodeFile]
  cases fs.read (Utf8.encode path) with
  | error e => simp [Except.mapError, bind, Except.bind]
  | ok bytes => simp [Except.mapError, bind, Except.bind, decoded]

/-! A list of sources and its parts. -/

theorem resolve_list_append {whole left right : Arguments} {xs ys : List (Option String)}
    (wholeList : IsList whole pos (xs ++ ys)) (leftList : IsList left pos xs)
    (rightList : IsList right pos ys) :
    ∃ us vs, resolve codec fs left pos = .ok us ∧ resolve codec fs right pos = .ok vs ∧
      resolve codec fs whole pos = .ok (us ++ vs) := by
  refine ⟨_, _, resolve_of_specs codec fs leftList.pathSpecs,
    resolve_of_specs codec fs rightList.pathSpecs, ?_⟩
  rw [resolve_of_specs codec fs wholeList.pathSpecs, List.filterMap_append,
    List.flatMap_append, List.map_append]

theorem filterMap_filter_isSome (xs : List (Option String)) :
    (xs.filter (·.isSome)).filterMap id = xs.filterMap id := by
  rw [List.filterMap_filter]
  congr 1
  funext x
  cases x <;> rfl

theorem resolve_list_trimmed {list trimmed : Arguments} {xs : List (Option String)}
    (isList : IsList list pos xs)
    (isTrimmed : IsList trimmed pos (xs.filter (·.isSome))) :
    resolve codec fs list pos = resolve codec fs trimmed pos := by
  rw [resolve_of_specs codec fs isList.pathSpecs,
    resolve_of_specs codec fs isTrimmed.pathSpecs, filterMap_filter_isSome]

theorem resolve_each {specs : List String} (found : pathSpecs args pos = .ok (some specs)) :
    ∃ units, resolve codec fs args pos = .ok units ∧
      List.Forall₂ (fun path unit => unit.file = some path ∧
        ∀ d, unit.result = .ok d ↔ ∃ bytes, fs.read (Utf8.encode path) = .ok bytes ∧
          Decoded.fromBytes codec bytes = .ok d) (specs.flatMap (expand fs)) units := by
  refine ⟨_, resolve_of_specs codec fs found, ?_⟩
  rw [List.forall₂_map_right_iff]
  exact List.forall₂_same.mpr fun path _ => ⟨rfl, decodeFile_eq_ok_iff codec fs path⟩

/-! Two snapshots of the machine. -/

variable {codec} {fs}

def AgreeOff (path : OsPath) (fs fs' : FileSystem) : Prop :=
  fs.glob = fs'.glob ∧ ∀ other, other ≠ path → fs.read other = fs'.read other

def SameOff (path : OsPath) (unit unit' : DecodeUnit) : Prop :=
  unit.file = unit'.file ∧
    (unit.file.map Utf8.encode ≠ some path → unit.result = unit'.result)

variable {path : OsPath} {fs' : FileSystem}

/-- The file system only ever decides results, never whether there are units: what it
decides for each path, it decides for all units in their order. -/
theorem resolve_related {related : DecodeUnit → DecodeUnit → Prop}
    (refl : ∀ unit, related unit unit)
    (alike : ∀ specs, pathSpecs args pos = .ok (some specs) →
      specs.flatMap (expand fs) = specs.flatMap (expand fs') ∧
        ∀ label, related (fileUnit codec fs label) (fileUnit codec fs' label))
    {units : List DecodeUnit} (resolved : resolve codec fs args pos = .ok units) :
    ∃ units', resolve codec fs' args pos = .ok units' ∧ List.Forall₂ related units units' := by
  obtain ⟨fault, always⟩ | ⟨bytes, always⟩ | ⟨specs, found⟩ := resolve_cases args pos
  · rw [always codec fs] at resolved
    cases resolved
  · refine ⟨units, ?_, List.forall₂_same.mpr fun unit _ => refl unit⟩
    rw [always codec fs', ← resolved, always codec fs]
  · obtain ⟨expanded, sameUnit⟩ := alike specs found
    rw [resolve_of_specs codec fs found] at resolved
    cases resolved
    refine ⟨_, resolve_of_specs codec fs' found, ?_⟩
    rw [← expanded, List.forall₂_map_left_iff, List.forall₂_map_right_iff]
    exact List.forall₂_same.mpr fun label _ => sameUnit label

theorem AgreeOff.expand_eq (agree : AgreeOff path fs fs') (spec : String) :
    expand fs spec = expand fs' spec := by
  rw [Source.expand, Source.expand, agree.1]

theorem AgreeOff.fileUnit_same (agree : AgreeOff path fs fs') (label : String) :
    SameOff path (fileUnit codec fs label) (fileUnit codec fs' label) := by
  refine ⟨rfl, fun elsewhere => ?_⟩
  have other : Utf8.encode label ≠ path := fun same => elsewhere (congrArg some same)
  simp only [Source.fileUnit, decodeFile, agree.2 _ other]

theorem SameOff.refl (path : OsPath) (unit : DecodeUnit) : SameOff path unit unit :=
  ⟨rfl, fun _ => rfl⟩

theorem AgreeOff.resolve_same (agree : AgreeOff path fs fs') {units : List DecodeUnit}
    (resolved : resolve codec fs args pos = .ok units) :
    ∃ units', resolve codec fs' args pos = .ok units' ∧
      List.Forall₂ (SameOff path) units units' := by
  refine resolve_related (SameOff.refl path) (fun specs _ => ?_) resolved
  exact ⟨List.flatMap_congr fun spec _ => agree.expand_eq spec, agree.fileUnit_same⟩

theorem SameOff.unitRows_eq {unit unit' : DecodeUnit} (same : SameOff path unit unit')
    (elsewhere : unit.file.map Utf8.encode ≠ some path) (target : Target)
    (table : TableFunction) : table.unitRows target unit = table.unitRows target unit' := by
  rw [TableFunction.unitRows, TableFunction.unitRows, same.1, same.2 elsewhere]

/-- One source never affects another, from the argument to the rows of a table. -/
structure Isolated (codec : Codec) (pos : Nat) : Prop where
  listAppend : ∀ fs whole left right xs ys, IsList whole pos (xs ++ ys) →
    IsList left pos xs → IsList right pos ys →
      ∃ us vs, resolve codec fs left pos = .ok us ∧ resolve codec fs right pos = .ok vs ∧
        resolve codec fs whole pos = .ok (us ++ vs)
  varcharAsList : ∀ fs varchar list s, IsVarchar varchar pos s → IsList list pos [some s] →
    resolve codec fs varchar pos = resolve codec fs list pos
  nullElements : ∀ fs list trimmed xs, IsList list pos xs →
    IsList trimmed pos (xs.filter (·.isSome)) →
      resolve codec fs list pos = resolve codec fs trimmed pos
  errorOfArgument : ∀ fs fs' args error, resolve codec fs args pos = .error error →
    resolve codec fs' args pos = .error error
  unitOfPath : ∀ fs args specs, pathSpecs args pos = .ok (some specs) →
    ∃ units, resolve codec fs args pos = .ok units ∧
      List.Forall₂ (fun path unit => unit.file = some path ∧
        ∀ d, unit.result = .ok d ↔ ∃ bytes, fs.read (Utf8.encode path) = .ok bytes ∧
          Decoded.fromBytes codec bytes = .ok d) (specs.flatMap (expand fs)) units
  blobAsFile : ∀ fs args bytes, IsBlob args pos bytes →
    ∃ result, resolve codec fs args pos = .ok [⟨none, result⟩] ∧
      ∀ fs' args' units unit path, resolve codec fs' args' pos = .ok units →
        unit ∈ units → unit.file = some path →
          fs'.read (Utf8.encode path) = .ok bytes → unit.result = result
  changedFile : ∀ fs fs' path args units, AgreeOff path fs fs' →
    resolve codec fs args pos = .ok units →
      ∃ units', resolve codec fs' args pos = .ok units' ∧
        List.Forall₂ (SameOff path) units units' ∧
        ∀ (target : Target) (table : TableFunction),
          table.gathered target units = (units.map (table.unitRows target)).flatten ∧
          table.gathered target units' = (units'.map (table.unitRows target)).flatten ∧
          List.Forall₂ (fun unit unit' => unit.file.map Utf8.encode ≠ some path →
            table.unitRows target unit = table.unitRows target unit') units units'
  builtRows : ∀ (target : Target) (table : TableFunction) (units : List DecodeUnit),
    table.WithinLimits target units →
      ∃ batch, table.build target units table.outputSchema = .ok (.ok batch) ∧
        batch.rows = table.gathered target units

theorem sources_isolated (codec : Codec) (pos : Nat) : Isolated codec pos where
  listAppend fs _ _ _ _ _ wholeList leftList rightList :=
    resolve_list_append codec fs wholeList leftList rightList
  varcharAsList fs varchar list s isVarchar isList := by
    rw [resolve_of_specs codec fs isVarchar.pathSpecs,
      resolve_of_specs codec fs isList.pathSpecs]
    rfl
  nullElements fs _ _ _ isList isTrimmed := resolve_list_trimmed codec fs isList isTrimmed
  errorOfArgument fs fs' _ _ failed := resolve_eq_error codec fs fs' failed
  unitOfPath fs _ _ found := resolve_each codec fs found
  blobAsFile fs args bytes blob := by
    refine ⟨_, resolve_of_blob codec fs blob, ?_⟩
    intro fs' args' units unit path resolved member label content
    rw [result_of_file codec fs' resolved member label, decodeFile, content]
    rfl
  changedFile fs fs' path args units agree resolved := by
    obtain ⟨units', resolved', same⟩ := agree.resolve_same resolved
    refine ⟨units', resolved', same, fun target table => ?_⟩
    refine ⟨table.gathered_eq_flatten target units,
      table.gathered_eq_flatten target units', ?_⟩
    exact same.imp fun unit unit' same elsewhere => same.unitRows_eq elsewhere target table
  builtRows target table units limits := by
    obtain ⟨batch, built, rows, -⟩ := table.build_of_withinLimits target units limits
    refine ⟨batch, built, rows.trans ?_⟩
    rw [table.gathered_eq_flatten, TableFunction.rows, List.flatMap_def]

/-! Two files, the second of which changes. -/

def plainCodec : Codec where
  gunzip _ := .error ⟨"invalid gzip header"⟩
  decode := Proto.Profile.decode

def twoFiles (second : Bytes) : FileSystem where
  read path :=
    if path = Utf8.encode "a.pb" then .ok [0x12, 0x02, 0x10, 0x05]
    else if path = Utf8.encode "b.pb" then .ok second
    else .error ⟨"No such file or directory (os error 2)"⟩
  glob _ := some []

def twoPaths : Arguments where
  constStr _ := none
  arg pos := if pos = 0 then some (.list (.utf8 [some "a.pb", none, some "b.pb"])) else none

def goodUnit : DecodeUnit :=
  ⟨some "a.pb", .ok (.ofProfile { sample := [{ value := [5] }] })⟩

theorem sources_isolated_twoFiles :
    resolve plainCodec (twoFiles []) twoPaths 0 =
        .ok [goodUnit, ⟨some "b.pb", .error "empty profile (zero bytes)"⟩] ∧
      resolve plainCodec (twoFiles [0x48, 0x07]) twoPaths 0 =
        .ok [goodUnit, ⟨some "b.pb", .ok (.ofProfile { timeNanos := 7 })⟩] ∧
      List.Forall₂ (SameOff (Utf8.encode "b.pb"))
        [goodUnit, ⟨some "b.pb", .error "empty profile (zero bytes)"⟩]
        [goodUnit, ⟨some "b.pb", .ok (.ofProfile { timeNanos := 7 })⟩] := by
  have agree : AgreeOff (Utf8.encode "b.pb") (twoFiles []) (twoFiles [0x48, 0x07]) := by
    refine ⟨rfl, fun other elsewhere => ?_⟩
    simp only [twoFiles, if_neg elsewhere]
  have before : resolve plainCodec (twoFiles []) twoPaths 0 =
      .ok [goodUnit, ⟨some "b.pb", .error "empty profile (zero bytes)"⟩] := rfl
  have after : resolve plainCodec (twoFiles [0x48, 0x07]) twoPaths 0 =
      .ok [goodUnit, ⟨some "b.pb", .ok (.ofProfile { timeNanos := 7 })⟩] := rfl
  obtain ⟨units', resolved, same, -⟩ :=
    (sources_isolated plainCodec 0).changedFile _ _ _ twoPaths _ agree before
  cases after.symm.trans resolved
  exact ⟨before, after, same⟩

end Source

end VgiPprof.Worker
