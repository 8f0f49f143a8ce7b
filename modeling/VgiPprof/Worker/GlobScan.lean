import Mathlib.Data.List.Sort
import Mathlib.Data.String.Basic
import VgiPprof.Glob.Pattern
import VgiPprof.Worker.GlobWalk

namespace VgiPprof.Worker

open VgiPprof.Core Data

/-! Scanning a pattern, and scanning the files it matches by their names. -/

namespace Source

open Glob (Language)

/-- What a walk can come to, under the names it gives: files, and directories. -/
structure Tree where
  paths : Set String
  files : Set String
  files_subset : files ⊆ paths

variable {codec : Codec} {fs : FileSystem}
variable {language : Language} {tree : Tree} {spec : String} {names : List String}

/-- The walk of the pattern comes to the paths that it matches, each at least once. -/
structure Walks (language : Language) (fs : FileSystem) (tree : Tree) (spec : String) :
    Prop where
  accepted : (fs.glob spec).isSome = language.accepts spec
  mem_iff : ∀ walk, fs.glob spec = some walk → ∀ path, some path ∈ walk ↔
    ∃ name ∈ tree.paths, language.isMatch spec name = true ∧ path = Utf8.encode name

structure MatchedFiles (language : Language) (tree : Tree) (spec : String)
    (names : List String) : Prop where
  sorted : names.Pairwise (· < ·)
  mem_iff : ∀ name, name ∈ names ↔ name ∈ tree.files ∧ language.isMatch spec name = true

def WalksOnce (fs : FileSystem) (spec : String) : Prop :=
  ∀ walk, fs.glob spec = some walk → walk.reduceOption.Nodup

/-- Every path that the pattern matches is a file, and the walk comes to none twice. -/
structure FilesOnly (language : Language) (fs : FileSystem) (tree : Tree) (spec : String) :
    Prop where
  isFile : ∀ name ∈ tree.paths, language.isMatch spec name = true → name ∈ tree.files
  once : WalksOnce fs spec

/-- The pattern matches this path alone, and the walk comes to it once. -/
structure MatchesOnly (language : Language) (fs : FileSystem) (tree : Tree)
    (spec name : String) : Prop where
  isMatch_iff : ∀ other ∈ tree.paths, language.isMatch spec other = true ↔ other = name
  once : WalksOnce fs spec

/-- Read as a pattern, the name is malformed or matches its own file alone. -/
def OnlyItself (language : Language) (fs : FileSystem) (tree : Tree) (name : String) :
    Prop :=
  isGlob name = true → language.accepts name = true → MatchesOnly language fs tree name name

/-! What a pattern expands to. -/

theorem expand_literal (literal : isGlob spec = false) : expand fs spec = [spec] := by
  rw [expand, literal]
  rfl

theorem expand_malformed (walks : Walks language fs tree spec)
    (malformed : language.accepts spec = false) : expand fs spec = [spec] := by
  have unwalked : fs.glob spec = none := by
    rw [← Option.not_isSome_iff_eq_none, walks.accepted, malformed]
    exact Bool.false_ne_true
  rw [expand, unwalked]
  exact ite_self _

namespace Walks

theorem exists_walk (walks : Walks language fs tree spec)
    (accepted : language.accepts spec = true) : ∃ walk, fs.glob spec = some walk :=
  Option.isSome_iff_exists.mp (walks.accepted.trans accepted)

theorem mem_expand_iff (walks : Walks language fs tree spec) (wildcard : isGlob spec = true)
    (accepted : language.accepts spec = true) (name : String) :
    name ∈ expand fs spec ↔ name ∈ tree.paths ∧ language.isMatch spec name = true := by
  obtain ⟨walk, walked⟩ := walks.exists_walk accepted
  rw [expand_of_walk fs wildcard walked, List.mem_map]
  simp only [(readPaths_perm walk).mem_iff, List.reduceOption_mem_iff,
    walks.mem_iff walk walked]
  constructor
  · rintro ⟨path, ⟨found, here, isMatch, rfl⟩, rfl⟩
    rw [Utf8.toStringLossy_encode]
    exact ⟨here, isMatch⟩
  · rintro ⟨here, isMatch⟩
    exact ⟨_, ⟨name, here, isMatch, rfl⟩, Utf8.toStringLossy_encode name⟩

theorem expand_nodup_iff (walks : Walks language fs tree spec)
    (wildcard : isGlob spec = true) (accepted : language.accepts spec = true) :
    (expand fs spec).Nodup ↔ WalksOnce fs spec := by
  constructor
  · intro distinct walk walked
    rw [expand_of_walk fs wildcard walked] at distinct
    exact (readPaths_perm walk).nodup_iff.mp (List.Nodup.of_map _ distinct)
  · intro once
    obtain ⟨walk, walked⟩ := walks.exists_walk accepted
    have text (path : OsPath) (member : path ∈ readPaths walk) :
        ∃ name, path = Utf8.encode name := by
      have met := List.reduceOption_mem_iff.mp ((readPaths_perm walk).mem_iff.mp member)
      obtain ⟨name, -, -, encoded⟩ := (walks.mem_iff walk walked path).mp met
      exact ⟨name, encoded⟩
    have distinct := (readPaths_perm walk).nodup_iff.mpr (once walk walked)
    rw [expand_of_walk fs wildcard walked]
    refine distinct.map_on fun path member other otherMember shown => ?_
    obtain ⟨name, rfl⟩ := text path member
    obtain ⟨otherName, rfl⟩ := text other otherMember
    rw [Utf8.toStringLossy_encode, Utf8.toStringLossy_encode] at shown
    rw [shown]

theorem expand_sorted (walks : Walks language fs tree spec) (wildcard : isGlob spec = true)
    (accepted : language.accepts spec = true) (once : WalksOnce fs spec) :
    (expand fs spec).Pairwise (· < ·) := by
  obtain ⟨walk, walked⟩ := walks.exists_walk accepted
  have ascending : (expand fs spec).Pairwise (· ≤ ·) := by
    rw [expand, if_pos wildcard, walked]
    exact List.pairwise_mergeSort' _ _
  have distinct := (walks.expand_nodup_iff wildcard accepted).mpr once
  exact (ascending.and distinct).imp fun both => lt_of_le_of_ne both.1 both.2

theorem once_of_sorted (walks : Walks language fs tree spec) (wildcard : isGlob spec = true)
    (accepted : language.accepts spec = true) (sorted : names.Pairwise (· < ·))
    (expanded : expand fs spec = names) : WalksOnce fs spec := by
  rw [← walks.expand_nodup_iff wildcard accepted, expanded]
  exact sorted.imp ne_of_lt

/-- Neither directories nor paths met before are left out: a pattern expands to the
files it matches just when the walk comes to these alone, each of them once. -/
theorem expand_eq_iff (walks : Walks language fs tree spec) (wildcard : isGlob spec = true)
    (accepted : language.accepts spec = true)
    (matched : MatchedFiles language tree spec names) :
    expand fs spec = names ↔ FilesOnly language fs tree spec := by
  have members := walks.mem_expand_iff wildcard accepted
  constructor
  · intro same
    refine ⟨fun name here isMatch => ?_,
      walks.once_of_sorted wildcard accepted matched.sorted same⟩
    have member := (members name).mpr ⟨here, isMatch⟩
    rw [same] at member
    exact ((matched.mem_iff name).mp member).1
  · intro only
    refine (walks.expand_sorted wildcard accepted only.once).eq_of_mem_iff matched.sorted
      fun name => ?_
    rw [members, matched.mem_iff]
    exact and_congr_left fun isMatch =>
      ⟨fun here => only.isFile name here isMatch, fun isFile => tree.files_subset isFile⟩

theorem expand_singleton_iff {name : String} (here : name ∈ tree.paths)
    (walks : Walks language fs tree spec) (wildcard : isGlob spec = true)
    (accepted : language.accepts spec = true) :
    expand fs spec = [name] ↔ MatchesOnly language fs tree spec name := by
  have members := walks.mem_expand_iff wildcard accepted
  have sorted := List.pairwise_singleton (· < ·) name
  constructor
  · intro alone
    refine ⟨fun other present => ?_, walks.once_of_sorted wildcard accepted sorted alone⟩
    have member := members other
    rw [alone, List.mem_singleton, and_iff_right present] at member
    exact member.symm
  · intro only
    refine (walks.expand_sorted wildcard accepted only.once).eq_of_mem_iff sorted
      fun other => ?_
    rw [members, List.mem_singleton]
    constructor
    · rintro ⟨present, isMatch⟩
      exact (only.isMatch_iff other present).mp isMatch
    · rintro rfl
      exact ⟨here, (only.isMatch_iff other here).mpr rfl⟩

end Walks

/-- An existing file is scanned as itself just when its name is read as no other. -/
theorem expand_self_iff {name : String} (here : name ∈ tree.files)
    (walks : isGlob name = true → Walks language fs tree name) :
    expand fs name = [name] ↔ OnlyItself language fs tree name := by
  cases wildcard : isGlob name with
  | false =>
      refine iff_of_true (expand_literal wildcard) fun glob => ?_
      rw [wildcard] at glob
      cases glob
  | true =>
      cases accepted : language.accepts name with
      | false =>
          refine iff_of_true (expand_malformed (walks wildcard) accepted) fun _ accepts => ?_
          rw [accepted] at accepts
          cases accepts
      | true =>
          rw [Walks.expand_singleton_iff (tree.files_subset here) (walks wildcard) wildcard
            accepted]
          exact ⟨fun only _ _ => only, fun only => only wildcard accepted⟩

/-! The three scans. -/

variable (codec) (fs)
variable {specArgs listArgs : Arguments} {each : String → Arguments} {pos : Nat}

/-- The pattern, the list of its matches, and its matches one after another give the
same units, and each match by itself is read as the file of that name. -/
structure SameScan (specArgs listArgs : Arguments) (each : String → Arguments) (pos : Nat)
    (names : List String) : Prop where
  scans : ∃ units, resolve codec fs specArgs pos = .ok units ∧
    resolve codec fs listArgs pos = .ok units ∧
    ∃ parts, List.Forall₂ (fun name part => resolve codec fs (each name) pos = .ok part)
      names parts ∧ parts.flatten = units
  exact : ∀ name ∈ names,
    resolve codec fs (each name) pos = .ok [⟨some name, decodeFile codec fs name⟩]

theorem fileUnit_injective : Function.Injective (fileUnit codec fs) := fun _ _ same =>
  Option.some.inj (congrArg DecodeUnit.file same)

theorem resolve_varchar {args : Arguments} (varchar : IsVarchar args pos spec) :
    resolve codec fs args pos = .ok ((expand fs spec).map (fileUnit codec fs)) := by
  rw [resolve_of_specs codec fs varchar.pathSpecs, List.flatMap_singleton]

theorem resolve_list (list : IsList listArgs pos (names.map some)) :
    resolve codec fs listArgs pos =
      .ok ((names.flatMap (expand fs)).map (fileUnit codec fs)) := by
  have given : (names.map some).filterMap id = names := reduceOption_map_some names
  rw [resolve_of_specs codec fs list.pathSpecs, given]

theorem resolve_exact_iff {args : Arguments} (varchar : IsVarchar args pos spec) :
    resolve codec fs args pos = .ok [⟨some spec, decodeFile codec fs spec⟩] ↔
      expand fs spec = [spec] := by
  rw [resolve_varchar codec fs varchar]
  constructor
  · intro same
    exact List.map_injective_iff.mpr (fileUnit_injective codec fs) (Except.ok.inj same)
  · intro self
    rw [self]
    rfl

theorem flatMap_expand_of_self (self : ∀ name ∈ names, expand fs name = [name]) :
    names.flatMap (expand fs) = names := by
  rw [List.flatMap_congr self, List.flatMap_singleton']

theorem sameScan_iff_expand (pattern : IsVarchar specArgs pos spec)
    (list : IsList listArgs pos (names.map some))
    (single : ∀ name ∈ names, IsVarchar (each name) pos name) :
    SameScan codec fs specArgs listArgs each pos names ↔
      expand fs spec = names ∧ ∀ name ∈ names, expand fs name = [name] := by
  constructor
  · rintro ⟨⟨units, specUnits, listUnits, -⟩, reads⟩
    have self (name : String) (member : name ∈ names) : expand fs name = [name] :=
      (resolve_exact_iff codec fs (single name member)).mp (reads name member)
    rw [resolve_varchar codec fs pattern] at specUnits
    rw [resolve_list codec fs list, flatMap_expand_of_self fs self] at listUnits
    refine ⟨?_, self⟩
    apply List.map_injective_iff.mpr (fileUnit_injective codec fs)
    exact Except.ok.inj (specUnits.trans listUnits.symm)
  · rintro ⟨whole, self⟩
    have alone (name : String) (member : name ∈ names) :
        resolve codec fs (each name) pos = .ok [fileUnit codec fs name] :=
      (resolve_exact_iff codec fs (single name member)).mpr (self name member)
    refine ⟨⟨names.map (fileUnit codec fs), ?_, ?_, ?_⟩, alone⟩
    · rw [resolve_varchar codec fs pattern, whole]
    · rw [resolve_list codec fs list, flatMap_expand_of_self fs self]
    · refine ⟨names.map fun name => [fileUnit codec fs name], ?_, ?_⟩
      · rw [List.forall₂_map_right_iff]
        exact List.forall₂_same.mpr alone
      · rw [← List.flatMap_def, ← List.map_eq_flatMap]

/-- Three ways to one scan: a pattern of files, or the name of one file, whose
matches are no patterns of anything else. -/
theorem sameScan_iff (accepted : language.accepts spec = true)
    (matched : MatchedFiles language tree spec names)
    (walks : isGlob spec = true → Walks language fs tree spec)
    (nameWalks : ∀ name ∈ names, isGlob name = true → Walks language fs tree name)
    (pattern : IsVarchar specArgs pos spec) (list : IsList listArgs pos (names.map some))
    (single : ∀ name ∈ names, IsVarchar (each name) pos name) :
    SameScan codec fs specArgs listArgs each pos names ↔
      (if isGlob spec then FilesOnly language fs tree spec else names = [spec]) ∧
        ∀ name ∈ names, OnlyItself language fs tree name := by
  rw [sameScan_iff_expand codec fs pattern list single]
  have self : (∀ name ∈ names, expand fs name = [name]) ↔
      ∀ name ∈ names, OnlyItself language fs tree name := by
    refine forall₂_congr fun name member => ?_
    exact expand_self_iff ((matched.mem_iff name).mp member).1 (nameWalks name member)
  rw [self]
  refine and_congr_left' ?_
  cases wildcard : isGlob spec with
  | true =>
      rw [(walks wildcard).expand_eq_iff wildcard accepted matched]
      exact Iff.rfl
  | false =>
      rw [expand_literal wildcard]
      exact eq_comm

/-! Files and directories with given names, walked by shell patterns. -/

open Glob (shell)

def namedTree (files directories : List String) : Tree where
  paths := {name | name ∈ files ++ directories}
  files := {name | name ∈ files}
  files_subset _ isFile := List.mem_append_left _ isFile

def namedFiles (files directories : List String) (content : String → Bytes) :
    FileSystem where
  read path :=
    match files.find? fun name => Utf8.encode name == path with
    | some name => .ok (content name)
    | none =>
        if directories.any fun name => Utf8.encode name == path then
          .error ⟨"Is a directory (os error 21)"⟩
        else .error ⟨"No such file or directory (os error 2)"⟩
  glob spec :=
    if shell.accepts spec then
      some ((((files ++ directories).filter (shell.isMatch spec)).map Utf8.encode).map some)
    else none

theorem namedFiles_walk {files directories : List String} (content : String → Bytes)
    {walk : List (Option OsPath)}
    (found : (namedFiles files directories content).glob spec = some walk) :
    walk = (((files ++ directories).filter (shell.isMatch spec)).map Utf8.encode).map some :=
  (Option.some.inj (ite_eq_iff.mp found |>.resolve_right nofun).2).symm

theorem namedFiles_walks (files directories : List String) (content : String → Bytes)
    (spec : String) :
    Walks shell (namedFiles files directories content) (namedTree files directories) spec := by
  refine ⟨?_, fun walk found path => ?_⟩
  · simp only [namedFiles]
    cases shell.accepts spec <;> rfl
  · rw [namedFiles_walk content found, List.mem_map_of_injective (Option.some_injective OsPath),
      List.mem_map]
    simp only [namedTree, List.mem_filter, Set.mem_ofPred_eq, and_assoc, eq_comm]

theorem namedFiles_walksOnce {files directories : List String}
    (distinct : (files ++ directories).Nodup) (content : String → Bytes) (spec : String) :
    WalksOnce (namedFiles files directories content) spec := by
  intro walk found
  rw [namedFiles_walk content found, reduceOption_map_some]
  exact (distinct.filter _).map Utf8.encode_injective

theorem matchedFiles_of_filter (sorted : names.Pairwise (· < ·))
    {files directories : List String} (filtered : files.filter (shell.isMatch spec) = names) :
    MatchedFiles shell (namedTree files directories) spec names := by
  refine ⟨sorted, fun name => ?_⟩
  rw [← filtered, List.mem_filter]
  rfl

theorem expand_namedFiles {files directories : List String}
    (distinct : (files ++ directories).Nodup) (content : String → Bytes)
    (wildcard : isGlob spec = true) (accepted : shell.accepts spec = true)
    (sorted : names.Pairwise (· < ·))
    (filtered : (files ++ directories).filter (shell.isMatch spec) = names) :
    expand (namedFiles files directories content) spec = names := by
  have walks := namedFiles_walks files directories content spec
  have once := namedFiles_walksOnce distinct content spec
  refine (walks.expand_sorted wildcard accepted once).eq_of_mem_iff sorted fun name => ?_
  rw [walks.mem_expand_iff wildcard accepted, ← filtered, List.mem_filter]
  rfl

def listArg (paths : List String) : Arguments where
  constStr _ := none
  arg pos := if pos = 0 then some (.list (.utf8 (paths.map some))) else none

theorem varcharArg_isVarchar (path : String) : IsVarchar (varcharArg path) 0 path := rfl

theorem listArg_isList (paths : List String) :
    IsList (listArg paths) 0 (paths.map some) :=
  ⟨rfl, _, .inl rfl, .inl rfl⟩

/-- The name of the second file is a pattern that matches the first. -/
def bracketNames : List String := ["a1.pb", "a[1].pb"]

def bracketFiles : FileSystem :=
  namedFiles bracketNames [] fun name =>
    if name = "a1.pb" then [0x48, 0x07] else [0x48, 0x09]

theorem expand_bracketFiles_all :
    expand bracketFiles "*.pb" = ["a1.pb", "a[1].pb"] :=
  expand_namedFiles (by decide) _ (by decide) (by decide) (by decide) (by decide)

theorem expand_bracketFiles_bracket : expand bracketFiles "a[1].pb" = ["a1.pb"] :=
  expand_namedFiles (by decide) _ (by decide) (by decide) (by decide) (by decide)

theorem bracketFiles_rescan :
    (∀ spec, Walks shell bracketFiles (namedTree bracketNames []) spec) ∧
      shell.accepts "*.pb" = true ∧
      MatchedFiles shell (namedTree bracketNames []) "*.pb" ["a1.pb", "a[1].pb"] ∧
      resolve plainCodec bracketFiles (varcharArg "*.pb") 0 =
        .ok [⟨some "a1.pb", .ok (.ofProfile { timeNanos := 7 })⟩,
          ⟨some "a[1].pb", .ok (.ofProfile { timeNanos := 9 })⟩] ∧
      resolve plainCodec bracketFiles (listArg ["a1.pb", "a[1].pb"]) 0 =
        .ok [⟨some "a1.pb", .ok (.ofProfile { timeNanos := 7 })⟩,
          ⟨some "a1.pb", .ok (.ofProfile { timeNanos := 7 })⟩] ∧
      resolve plainCodec bracketFiles (varcharArg "a[1].pb") 0 =
        .ok [⟨some "a1.pb", .ok (.ofProfile { timeNanos := 7 })⟩] ∧
      ¬ SameScan plainCodec bracketFiles (varcharArg "*.pb") (listArg ["a1.pb", "a[1].pb"])
        varcharArg 0 ["a1.pb", "a[1].pb"] := by
  have plain : expand bracketFiles "a1.pb" = ["a1.pb"] := expand_literal (by decide)
  refine ⟨namedFiles_walks _ _ _, by decide,
    matchedFiles_of_filter (by decide) (by decide), ?_, ?_, ?_, ?_⟩
  · rw [resolve_varchar plainCodec bracketFiles (varcharArg_isVarchar _),
      expand_bracketFiles_all]
    rfl
  · rw [resolve_list plainCodec bracketFiles (listArg_isList _), List.flatMap_cons,
      List.flatMap_singleton, plain, expand_bracketFiles_bracket]
    rfl
  · rw [resolve_varchar plainCodec bracketFiles (varcharArg_isVarchar _),
      expand_bracketFiles_bracket]
    rfl
  · intro same
    have self := (resolve_exact_iff plainCodec bracketFiles
      (varcharArg_isVarchar "a[1].pb")).mp (same.exact _ (by decide))
    rw [expand_bracketFiles_bracket] at self
    exact absurd self (by decide)

/-- The second name is a pattern too, but matches itself; the directory is not
matched. -/
def queryFiles : FileSystem :=
  namedFiles ["a.pb", "b?.pb"] ["old"] fun _ => [0x48, 0x07]

theorem sameScan_queryFiles :
    SameScan plainCodec queryFiles (varcharArg "*.pb") (listArg ["a.pb", "b?.pb"])
      varcharArg 0 ["a.pb", "b?.pb"] := by
  have walks (spec : String) :
      Walks shell queryFiles (namedTree ["a.pb", "b?.pb"] ["old"]) spec :=
    namedFiles_walks _ _ _ spec
  have once (spec : String) : WalksOnce queryFiles spec :=
    namedFiles_walksOnce (by decide) _ spec
  refine (sameScan_iff plainCodec queryFiles (by decide)
    (matchedFiles_of_filter (by decide) (by decide)) (fun _ => walks _)
    (fun name _ _ => walks name) (varcharArg_isVarchar _) (listArg_isList _)
    fun name _ => varcharArg_isVarchar name).mpr ⟨?_, ?_⟩
  · rw [if_pos (by decide)]
    refine ⟨?_, once _⟩
    rintro name (_ | ⟨_, _ | ⟨_, _ | ⟨_, _ | _⟩⟩⟩) isMatch
    · exact List.mem_cons_self
    · exact List.mem_cons_of_mem _ List.mem_cons_self
    · exact absurd isMatch (by decide)
  · rintro name (_ | ⟨_, _ | ⟨_, _ | _⟩⟩) wildcard _
    · exact absurd wildcard (by decide)
    · refine ⟨?_, once _⟩
      rintro other (_ | ⟨_, _ | ⟨_, _ | ⟨_, _ | _⟩⟩⟩) <;> decide

/-- A directory that the pattern matches is scanned as well. -/
example : resolve plainCodec (namedFiles ["a.pb"] ["sub.pb"] fun _ => [0x48, 0x07])
    (varcharArg "*.pb") 0 =
      .ok [⟨some "a.pb", .ok (.ofProfile { timeNanos := 7 })⟩,
        ⟨some "sub.pb", .error "read sub.pb: Is a directory (os error 21)"⟩] := by
  have expanded : expand (namedFiles ["a.pb"] ["sub.pb"] fun _ => [0x48, 0x07]) "*.pb" =
      ["a.pb", "sub.pb"] :=
    expand_namedFiles (by decide) _ (by decide) (by decide) (by decide) (by decide)
  rw [resolve_varchar plainCodec _ (varcharArg_isVarchar _), expanded]
  rfl

end Source

end VgiPprof.Worker
