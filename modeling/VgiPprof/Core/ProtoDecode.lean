import VgiPprof.Core.Decoded
import VgiPprof.Wire.Parser

namespace VgiPprof.Core.Proto

open Wire

/-! A decoder for `Profile` over the wire format: fields in any order, unknown
fields skipped, later scalars replacing earlier ones, numeric lists packed or
not.  It stands in for the generated one where a concrete decoder is needed. -/

/-- What a decoder must respect to read the wire format at all. -/
def FollowsWireFormat (decode : Bytes → Except DecodeError Profile) : Prop :=
  ∀ bytes profile, decode bytes = .ok profile → ∃ fields, Message bytes fields

def uint64 : Payload → Option UInt64
  | .varint value => some (UInt64.ofNat value)
  | _ => none

def int64 (payload : Payload) : Option Int64 :=
  (uint64 payload).map (·.toInt64)

def bool (payload : Payload) : Option Bool :=
  (uint64 payload).map fun value => value != 0

def string : Payload → Option String
  | .len bytes => Utf8.decode? bytes
  | _ => none

def varints : Nat → Bytes → Option (List Nat)
  | _, [] => some []
  | 0, _ :: _ => none
  | fuel + 1, byte :: bytes => do
      let (value, rest) ← decodeVarint (byte :: bytes)
      let values ← varints fuel rest
      some (value :: values)

def repeatedUint64 : Payload → Option (List UInt64)
  | .varint value => some [UInt64.ofNat value]
  | .len bytes => (varints bytes.length bytes).map (·.map UInt64.ofNat)
  | _ => none

def repeatedInt64 (payload : Payload) : Option (List Int64) :=
  (repeatedUint64 payload).map (·.map (·.toInt64))

def mergeMessage {α : Type} (depth : Nat) (merge : α → Field → Option α) (init : α)
    (bytes : Bytes) : Option α := do
  let fields ← parse depth bytes
  fields.foldlM merge init

def message {α : Type} (depth : Nat) (merge : α → Field → Option α) (init : α) :
    Payload → Option α
  | .len bytes => mergeMessage depth merge init bytes
  | _ => none

def ValueType.merge (vt : ValueType) (field : Field) : Option ValueType :=
  match field.tag with
  | 1 => (int64 field.payload).map fun x => { vt with type := x }
  | 2 => (int64 field.payload).map fun x => { vt with unit := x }
  | _ => some vt

def Label.merge (lbl : Label) (field : Field) : Option Label :=
  match field.tag with
  | 1 => (int64 field.payload).map fun x => { lbl with key := x }
  | 2 => (int64 field.payload).map fun x => { lbl with str := x }
  | 3 => (int64 field.payload).map fun x => { lbl with num := x }
  | 4 => (int64 field.payload).map fun x => { lbl with numUnit := x }
  | _ => some lbl

def Sample.merge (depth : Nat) (s : Sample) (field : Field) : Option Sample :=
  match field.tag with
  | 1 => (repeatedUint64 field.payload).map fun xs =>
      { s with locationId := s.locationId ++ xs }
  | 2 => (repeatedInt64 field.payload).map fun xs => { s with value := s.value ++ xs }
  | 3 => (message (depth - 1) Label.merge {} field.payload).map fun x =>
      { s with label := s.label ++ [x] }
  | _ => some s

def Mapping.merge (m : Mapping) (field : Field) : Option Mapping :=
  match field.tag with
  | 1 => (uint64 field.payload).map fun x => { m with id := x }
  | 2 => (uint64 field.payload).map fun x => { m with memoryStart := x }
  | 3 => (uint64 field.payload).map fun x => { m with memoryLimit := x }
  | 4 => (uint64 field.payload).map fun x => { m with fileOffset := x }
  | 5 => (int64 field.payload).map fun x => { m with filename := x }
  | 6 => (int64 field.payload).map fun x => { m with buildId := x }
  | 7 => (bool field.payload).map fun x => { m with hasFunctions := x }
  | 8 => (bool field.payload).map fun x => { m with hasFilenames := x }
  | 9 => (bool field.payload).map fun x => { m with hasLineNumbers := x }
  | 10 => (bool field.payload).map fun x => { m with hasInlineFrames := x }
  | _ => some m

def Line.merge (ln : Line) (field : Field) : Option Line :=
  match field.tag with
  | 1 => (uint64 field.payload).map fun x => { ln with functionId := x }
  | 2 => (int64 field.payload).map fun x => { ln with line := x }
  | 3 => (int64 field.payload).map fun x => { ln with column := x }
  | _ => some ln

def Location.merge (depth : Nat) (l : Location) (field : Field) : Option Location :=
  match field.tag with
  | 1 => (uint64 field.payload).map fun x => { l with id := x }
  | 2 => (uint64 field.payload).map fun x => { l with mappingId := x }
  | 3 => (uint64 field.payload).map fun x => { l with address := x }
  | 4 => (message (depth - 1) Line.merge {} field.payload).map fun x =>
      { l with line := l.line ++ [x] }
  | 5 => (bool field.payload).map fun x => { l with isFolded := x }
  | _ => some l

def Function.merge (f : Function) (field : Field) : Option Function :=
  match field.tag with
  | 1 => (uint64 field.payload).map fun x => { f with id := x }
  | 2 => (int64 field.payload).map fun x => { f with name := x }
  | 3 => (int64 field.payload).map fun x => { f with systemName := x }
  | 4 => (int64 field.payload).map fun x => { f with filename := x }
  | 5 => (int64 field.payload).map fun x => { f with startLine := x }
  | _ => some f

def Profile.merge (depth : Nat) (p : Profile) (field : Field) : Option Profile :=
  match field.tag with
  | 1 => (message (depth - 1) ValueType.merge {} field.payload).map fun x =>
      { p with sampleType := p.sampleType ++ [x] }
  | 2 => (message (depth - 1) (Sample.merge (depth - 1)) {} field.payload).map fun x =>
      { p with sample := p.sample ++ [x] }
  | 3 => (message (depth - 1) Mapping.merge {} field.payload).map fun x =>
      { p with mapping := p.mapping ++ [x] }
  | 4 => (message (depth - 1) (Location.merge (depth - 1)) {} field.payload).map fun x =>
      { p with location := p.location ++ [x] }
  | 5 => (message (depth - 1) Function.merge {} field.payload).map fun x =>
      { p with function := p.function ++ [x] }
  | 6 => (string field.payload).map fun x => { p with stringTable := p.stringTable ++ [x] }
  | 7 => (int64 field.payload).map fun x => { p with dropFrames := x }
  | 8 => (int64 field.payload).map fun x => { p with keepFrames := x }
  | 9 => (int64 field.payload).map fun x => { p with timeNanos := x }
  | 10 => (int64 field.payload).map fun x => { p with durationNanos := x }
  | 11 => (message (depth - 1) ValueType.merge (p.periodType.getD {}) field.payload).map
      fun x => { p with periodType := some x }
  | 12 => (int64 field.payload).map fun x => { p with period := x }
  | 13 => (repeatedInt64 field.payload).map fun xs => { p with comment := p.comment ++ xs }
  | 14 => (int64 field.payload).map fun x => { p with defaultSampleType := x }
  | 15 => (int64 field.payload).map fun x => { p with docUrl := x }
  | _ => some p

def recursionLimit : Nat := 100

def Profile.decode (bytes : Bytes) : Except DecodeError Profile :=
  match mergeMessage recursionLimit (Profile.merge recursionLimit) {} bytes with
  | some profile => .ok profile
  | none => .error ⟨"failed to decode Protobuf message"⟩

theorem Profile.decode_followsWireFormat : FollowsWireFormat Profile.decode := by
  intro bytes profile decoded
  unfold Profile.decode at decoded
  split at decoded
  · rename_i merged
    simp only [mergeMessage, Option.bind_eq_bind, Option.bind_eq_some_iff] at merged
    obtain ⟨fields, parsed, -⟩ := merged
    exact ⟨fields, parse_sound parsed⟩
  · cases decoded

/-- A packed and an unpacked list, a padded varint, and an unknown field. -/
example : Profile.decode
    [0x12, 0x09, 0x0a, 0x02, 0x01, 0x02, 0x10, 0x85, 0x00, 0x10, 0x06,
      0xaa, 0x06, 0x01, 0x7a, 0x32, 0x01, 0x61] =
    .ok { sample := [{ locationId := [1, 2], value := [5, 6] }]
          stringTable := ["a"] } := by decide

end VgiPprof.Core.Proto
