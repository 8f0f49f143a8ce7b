import VgiPprof.Core.Proto
import VgiPprof.Data.FirstWins
import VgiPprof.Data.HashMap

namespace VgiPprof.Core

open Data

/-! The decoder and flattener of `pprof-core`.  What it takes from the gzip and
protobuf libraries is a parameter. -/

structure IoError where
  message : String
  deriving DecidableEq, Repr

structure DecodeError where
  message : String
  deriving DecidableEq, Repr

/-- `flate2::read::GzDecoder` read to its end, and the decoder that `prost`
generates for `Profile`. -/
structure Codec where
  gunzip : Bytes → Except IoError Bytes
  decode : Bytes → Except DecodeError Proto.Profile

inductive PprofError where
  | empty
  | gunzip (error : IoError)
  | decode (error : DecodeError)
  deriving DecidableEq, Repr

def PprofError.toString : PprofError → String
  | .empty => "empty profile (zero bytes)"
  | .gunzip error => "gzip decompression failed: " ++ error.message
  | .decode error => "pprof protobuf decode failed: " ++ error.message

/-- The build the code runs as; only the width of `usize` differs. -/
inductive Target where
  | native
  | wasm32
  deriving DecidableEq, Repr

def Target.usizeBits : Target → Nat
  | .native => 64
  | .wasm32 => 32

def Target.asUsize (target : Target) (idx : Int64) : Nat :=
  -- the cast keeps the low bits, also of a negative index
  (idx.toInt % 2 ^ target.usizeBits).toNat

structure ValueType where
  type : String
  unit : String
  deriving DecidableEq, Repr

structure Frame where
  function : Option String
  filename : Option String
  line : Option Int64
  address : UInt64
  deriving DecidableEq, Repr

structure LineRef where
  functionId : UInt64
  line : Int64
  deriving DecidableEq, Repr

structure StackRow where
  sampleId : Int64
  value : List Int64
  labels : List (String × String)
  frames : List Frame
  deriving DecidableEq, Repr

structure SampleRow where
  sampleId : Int64
  locationIds : List UInt64
  value : List Int64
  labels : List (String × String)
  deriving DecidableEq, Repr

structure FunctionRow where
  functionId : UInt64
  name : Option String
  systemName : Option String
  filename : Option String
  startLine : Int64
  deriving DecidableEq, Repr

structure LocationRow where
  locationId : UInt64
  address : UInt64
  mappingId : UInt64
  lines : List LineRef
  deriving DecidableEq, Repr

structure MappingRow where
  mappingId : UInt64
  memoryStart : UInt64
  memoryLimit : UInt64
  fileOffset : UInt64
  filename : Option String
  buildId : Option String
  deriving DecidableEq, Repr

structure Meta where
  sampleTypes : List ValueType
  period : Int64
  periodType : Option ValueType
  durationNanos : Int64
  timeNanos : Int64
  defaultSampleType : Option String
  deriving DecidableEq, Repr

/-- A decoded profile.  The id maps are the ones `from_bytes` builds: positions
in the profile's own tables, the last of several equal ids taking the entry. -/
structure Decoded where
  profile : Proto.Profile
  locById : HashMap UInt64 (Fin profile.location.length)
  fnById : HashMap UInt64 (Fin profile.function.length)
  locById_eq : locById = indexBy (·.id) profile.location
  fnById_eq : fnById = indexBy (·.id) profile.function

namespace Decoded

def ofProfile (profile : Proto.Profile) : Decoded where
  profile := profile
  locById := indexBy (·.id) profile.location
  fnById := indexBy (·.id) profile.function
  locById_eq := rfl
  fnById_eq := rfl

def hasGzipMagic (bytes : Bytes) : Bool :=
  match bytes with
  | first :: second :: _ => first == 0x1f && second == 0x8b
  | _ => false

def fromBytes (codec : Codec) (bytes : Bytes) : Except PprofError Decoded :=
  if bytes.isEmpty then .error .empty
  else do
    let raw ←
      if hasGzipMagic bytes then (codec.gunzip bytes).mapError .gunzip
      else .ok bytes
    let profile ← (codec.decode raw).mapError .decode
    .ok (ofProfile profile)

section Views

variable (target : Target) (d : Decoded)

def str (idx : Int64) : Option String :=
  if idx ≤ 0 then none
  else (d.profile.stringTable[target.asUsize idx]?).filter fun s => !s.isEmpty

def valueType (vt : Proto.ValueType) : ValueType where
  type := (str target d vt.type).getD ""
  unit := (str target d vt.unit).getD ""

def labelKey (lbl : Proto.Label) : String :=
  (str target d lbl.key).getD ""

def labelValue (lbl : Proto.Label) : String :=
  if lbl.str ≠ 0 then (str target d lbl.str).getD ""
  else
    match str target d lbl.numUnit with
    | some unit => toString lbl.num ++ " " ++ unit
    | none => toString lbl.num

def labels (sample : Proto.Sample) : List (String × String) :=
  sample.label.foldl (fun out lbl =>
    FirstWins.push out (labelKey target d lbl, labelValue target d lbl)) []

def lineFrame (loc : Proto.Location) (line : Proto.Line) : Frame :=
  let func := (d.fnById.get line.functionId).map d.profile.function.get
  { function := func.bind fun f => str target d f.name
    filename := func.bind fun f => str target d f.filename
    line := some line.line
    address := loc.address }

def framesFor (locationId : UInt64) (out : List Frame) : List Frame :=
  match d.locById.get locationId with
  | none => out ++ [⟨none, none, none, 0⟩]
  | some li =>
      let loc := d.profile.location.get li
      if loc.line.isEmpty then out ++ [⟨none, none, none, loc.address⟩]
      else loc.line.foldl (fun out line => out ++ [lineFrame target d loc line]) out

/-- The row of `meta()`; the bare word is reserved here. -/
def metaRow : Meta where
  sampleTypes := d.profile.sampleType.map (valueType target d)
  period := d.profile.period
  periodType := d.profile.periodType.map (valueType target d)
  durationNanos := d.profile.durationNanos
  timeNanos := d.profile.timeNanos
  defaultSampleType := str target d d.profile.defaultSampleType

def stackRow (i : Nat) (sample : Proto.Sample) : StackRow where
  sampleId := Int64.ofNat i + 1
  value := sample.value
  labels := labels target d sample
  frames := sample.locationId.foldl
    (fun frames locId => framesFor target d locId frames) []

end Views

end Decoded

def Decoded.stacks (target : Target) (d : Decoded) : List StackRow :=
  d.profile.sample.mapIdx (stackRow target d)

namespace Decoded

section Views

variable (target : Target) (d : Decoded)

def sampleRow (i : Nat) (sample : Proto.Sample) : SampleRow where
  sampleId := Int64.ofNat i + 1
  locationIds := sample.locationId
  value := sample.value
  labels := labels target d sample

def samples : List SampleRow :=
  d.profile.sample.mapIdx (sampleRow target d)

def functionRow (f : Proto.Function) : FunctionRow where
  functionId := f.id
  name := str target d f.name
  systemName := str target d f.systemName
  filename := str target d f.filename
  startLine := f.startLine

def functions : List FunctionRow :=
  d.profile.function.map (functionRow target d)

def locationRow (l : Proto.Location) : LocationRow where
  locationId := l.id
  address := l.address
  mappingId := l.mappingId
  lines := l.line.map fun ln => ⟨ln.functionId, ln.line⟩

def locations : List LocationRow :=
  d.profile.location.map locationRow

def mappingRow (m : Proto.Mapping) : MappingRow where
  mappingId := m.id
  memoryStart := m.memoryStart
  memoryLimit := m.memoryLimit
  fileOffset := m.fileOffset
  filename := str target d m.filename
  buildId := str target d m.buildId

def mappings : List MappingRow :=
  d.profile.mapping.map (mappingRow target d)

end Views

end Decoded

end VgiPprof.Core
