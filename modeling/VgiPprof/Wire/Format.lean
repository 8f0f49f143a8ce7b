import VgiPprof.Data.Bytes

namespace VgiPprof.Wire

/-! The protobuf wire format: a message is a sequence of fields, each a varint
key followed by a value whose extent the key's wire type determines. -/

inductive WireType where
  | varint
  | i64
  | len
  | startGroup
  | endGroup
  | i32
  deriving DecidableEq, Repr

/-- The wire type is the low three bits of a key; 6 and 7 name none. -/
def WireType.ofKey (key : Nat) : Option WireType :=
  match key % 8 with
  | 0 => some .varint
  | 1 => some .i64
  | 2 => some .len
  | 3 => some .startGroup
  | 4 => some .endGroup
  | 5 => some .i32
  | _ => none

theorem WireType.mod_lt_of_ofKey {key : Nat} {wireType : WireType}
    (named : WireType.ofKey key = some wireType) : key % 8 < 6 := by
  unfold WireType.ofKey at named
  split at named
  case h_7 => simp at named
  all_goals omega

inductive Payload where
  | varint (value : Nat)
  | i64 (bytes : Bytes)
  | len (bytes : Bytes)
  | group
  | i32 (bytes : Bytes)
  deriving DecidableEq, Repr

structure Field where
  tag : Nat
  payload : Payload
  deriving DecidableEq, Repr

/-- Base-128 varints, least significant group first.  Padding groups of zero
are admitted, so one value has several encodings. -/
inductive Varint : Bytes → Nat → Prop
  | last {byte : UInt8} (final : byte < 0x80) : Varint [byte] byte.toNat
  | more {byte : UInt8} {bytes : Bytes} {value : Nat} (continued : ¬ byte < 0x80)
      (rest : Varint bytes value) :
      Varint (byte :: bytes) (byte.toNat - 128 + 128 * value)

def Key (bytes : Bytes) (tag : Nat) (wireType : WireType) : Prop :=
  ∃ key, Varint bytes key ∧ WireType.ofKey key = some wireType ∧
    key / 8 = tag ∧ 0 < tag

mutual
/-- Values of one wire type; a group runs up to the end key with its own tag. -/
inductive Value : WireType → Nat → Bytes → Payload → Prop
  | varint {tag : Nat} {bytes : Bytes} {value : Nat} (encoded : Varint bytes value) :
      Value .varint tag bytes (.varint value)
  | i64 {tag : Nat} {bytes : Bytes} (size : bytes.length = 8) :
      Value .i64 tag bytes (.i64 bytes)
  | len {tag : Nat} {size body : Bytes} (encoded : Varint size body.length) :
      Value .len tag (size ++ body) (.len body)
  | group {tag : Nat} {body close : Bytes} {fields : List Field}
      (inner : Message body fields) (closed : Key close tag .endGroup) :
      Value .startGroup tag (body ++ close) .group
  | i32 {tag : Nat} {bytes : Bytes} (size : bytes.length = 4) :
      Value .i32 tag bytes (.i32 bytes)

inductive Message : Bytes → List Field → Prop
  | nil : Message [] []
  | cons {key value rest : Bytes} {tag : Nat} {wireType : WireType}
      {payload : Payload} {fields : List Field} (announced : Key key tag wireType)
      (first : Value wireType tag value payload) (others : Message rest fields) :
      Message (key ++ value ++ rest) (⟨tag, payload⟩ :: fields)
end

theorem Varint.head_mod {byte : UInt8} {bytes : Bytes} {value : Nat}
    (encoded : Varint (byte :: bytes) value) : value % 8 = byte.toNat % 8 := by
  cases encoded with
  | last final => rfl
  | more continued rest =>
      have large : 128 ≤ byte.toNat := by
        simpa [UInt8.lt_iff_toNat_lt] using continued
      omega

/-- A message can only start with a byte that names a wire type. -/
theorem Message.head_mod_lt {byte : UInt8} {bytes : Bytes} {fields : List Field}
    (message : Message (byte :: bytes) fields) : byte.toNat % 8 < 6 := by
  generalize whole : byte :: bytes = all at message
  cases message with
  | nil => cases whole
  | @cons key value rest tag wireType payload fields announced first others =>
      obtain ⟨number, encoded, named, -, -⟩ := announced
      have keyHead : ∃ tail, key = byte :: tail := by
        cases encoded with
        | last final =>
            simp only [List.cons_append, List.cons.injEq] at whole
            exact ⟨[], by rw [whole.1]⟩
        | more continued rest =>
            simp only [List.cons_append, List.cons.injEq] at whole
            exact ⟨_, by rw [whole.1]⟩
      obtain ⟨tail, rfl⟩ := keyHead
      rw [← encoded.head_mod]
      exact WireType.mod_lt_of_ofKey named

end VgiPprof.Wire
