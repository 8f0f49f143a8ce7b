import VgiPprof.Core.Decoded
import VgiPprof.Arrow.Array

namespace VgiPprof.Worker

open VgiPprof.Core

/-! Resolving the overloaded `src` argument into decode units. -/

/-- One decode attempt: where it came from, and the profile or the captured
message. -/
structure DecodeUnit where
  file : Option String
  result : Except String Decoded

inductive RpcError where
  | valueError (message : String)
  | runtimeError (error : Arrow.ArrowError)
  deriving DecidableEq, Repr

/-- File names as the operating system has them. -/
abbrev OsPath := Bytes

/-- What the scan sees of the machine.  The glob walk is `none` on a pattern
that does not parse; an entry of it is `none` where a place could not be read. -/
structure FileSystem where
  read : OsPath → Except IoError Bytes
  glob : String → Option (List (Option OsPath))

inductive Elements where
  | utf8 (values : List (Option String))
  | largeUtf8 (values : List (Option String))
  | other

inductive Argument where
  | binary (value : Option Bytes)
  | largeBinary (value : Option Bytes)
  | binaryView (value : Option Bytes)
  | list (elements : Elements)
  | largeList (elements : Elements)
  | other

/-- The accessors of `vgi::arguments::Arguments` that the source reads. -/
structure Arguments where
  constStr : Nat → Option String
  arg : Nat → Option Argument

namespace Source

def isGlob (spec : String) : Bool :=
  spec.toList.any fun c => c == '*' || c == '?' || c == '['

/-- The walk's unreadable places are dropped here, and names that are not UTF-8
lose their bytes. -/
def expand (fs : FileSystem) (spec : String) : List String :=
  if isGlob spec then
    match fs.glob spec with
    | some paths =>
        ((paths.filterMap id).map Utf8.toStringLossy).mergeSort fun a b => decide (a ≤ b)
    | none => [spec]
  else [spec]

def pathSpecs (args : Arguments) (pos : Nat) : Except RpcError (Option (List String)) :=
  match args.constStr pos with
  | some s => .ok (some [s])
  | none =>
      match args.arg pos with
      | none =>
          .error (.valueError "a profile source (path, list of paths, or BLOB) is required")
      | some (.binary _) | some (.largeBinary _) | some (.binaryView _) => .ok none
      | some (.list elems) | some (.largeList elems) =>
          match elems with
          | .utf8 s | .largeUtf8 s => .ok (some (s.filterMap id))
          | .other => .error (.valueError "path list elements must be VARCHAR")
      | some .other =>
          .error (.valueError
            "profile source must be a VARCHAR path, a LIST(VARCHAR), or a BLOB")

def blobBytes (args : Arguments) (pos : Nat) : Option Bytes :=
  match args.arg pos with
  | some (.binary value) => value
  | some (.largeBinary value) => value
  | some (.binaryView value) => value
  | _ => none

variable (codec : Codec) (fs : FileSystem)

def decodeBytes (bytes : Bytes) : Except String Decoded :=
  (Decoded.fromBytes codec bytes).mapError PprofError.toString

def decodeFile (path : String) : Except String Decoded := do
  let bytes ← (fs.read (Utf8.encode path)).mapError fun e =>
    "read " ++ path ++ ": " ++ e.message
  decodeBytes codec bytes

def resolve (args : Arguments) (pos : Nat) : Except RpcError (List DecodeUnit) := do
  match ← pathSpecs args pos with
  | none =>
      match blobBytes args pos with
      | none => .error (.valueError "profile source BLOB was NULL or empty")
      | some bytes => .ok [⟨none, decodeBytes codec bytes⟩]
  | some specs =>
      .ok (specs.foldl (fun units spec =>
        (expand fs spec).foldl (fun units path =>
          units ++ [⟨some path, decodeFile codec fs path⟩]) units) [])

end Source

end VgiPprof.Worker
