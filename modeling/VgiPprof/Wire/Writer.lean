import VgiPprof.Wire.Parser

namespace VgiPprof.Wire

/-! Writing the wire format in its canonical form: shortest varints, and a length
before each nested body. -/

def putVarintWithin : Nat → Nat → Bytes
  | 0, _ => []
  | budget + 1, n =>
      if n < 128 then [UInt8.ofNat n]
      else UInt8.ofNat (n % 128 + 128) :: putVarintWithin budget (n / 128)

def putVarint (n : Nat) : Bytes :=
  putVarintWithin 10 n

def WireType.code : WireType → Nat
  | .varint => 0
  | .i64 => 1
  | .len => 2
  | .startGroup => 3
  | .endGroup => 4
  | .i32 => 5

def putKey (tag : Nat) (wireType : WireType) : Bytes :=
  putVarint (8 * tag + wireType.code)

def putField (field : Field) : Bytes :=
  match field.payload with
  | .varint value => putKey field.tag .varint ++ putVarint value
  | .i64 bytes => putKey field.tag .i64 ++ bytes
  | .len body => putKey field.tag .len ++ (putVarint body.length ++ body)
  | .group => putKey field.tag .startGroup ++ putKey field.tag .endGroup
  | .i32 bytes => putKey field.tag .i32 ++ bytes

def putFields (fields : List Field) : Bytes :=
  fields.flatMap putField

def Payload.Writable : Payload → Prop
  | .varint value => value < 2 ^ 64
  | .i64 bytes => bytes.length = 8
  | .len body => body.length < 2 ^ 64
  | .group => True
  | .i32 bytes => bytes.length = 4

structure Field.Writable (field : Field) : Prop where
  tag_pos : 0 < field.tag
  tag_lt : field.tag < 2 ^ 29
  payload : field.payload.Writable

/-! What is written is read back, whatever follows it. -/

theorem takeVarint_put (budget n : Nat) (small : n < 2 * 128 ^ budget) (rest : Bytes) :
    takeVarint (budget + 1) (putVarintWithin (budget + 1) n ++ rest) = some (n, rest) := by
  induction budget generalizing n with
  | zero =>
      have final : n < 128 := by omega
      have byte : (UInt8.ofNat n).toNat = n := by
        rw [UInt8.toNat_ofNat']
        omega
      have below : UInt8.ofNat n < 0x80 := by
        rw [UInt8.lt_iff_toNat_lt, byte]
        exact final
      have bit : ¬ (1 < UInt8.ofNat n) := by
        rw [UInt8.lt_iff_toNat_lt, byte]
        simp only [UInt8.toNat_one]
        omega
      rw [putVarintWithin, if_pos final, List.singleton_append, takeVarint, if_pos below,
        if_neg fun both => bit both.2, byte]
  | succ budget induction =>
      by_cases final : n < 128
      · have byte : (UInt8.ofNat n).toNat = n := by
          rw [UInt8.toNat_ofNat']
          omega
        have below : UInt8.ofNat n < 0x80 := by
          rw [UInt8.lt_iff_toNat_lt, byte]
          exact final
        rw [putVarintWithin, if_pos final, List.singleton_append, takeVarint, if_pos below,
          if_neg fun both => absurd both.1 (Nat.succ_ne_zero budget), byte]
      · have byte : (UInt8.ofNat (n % 128 + 128)).toNat = n % 128 + 128 := by
          rw [UInt8.toNat_ofNat']
          omega
        have above : ¬ (UInt8.ofNat (n % 128 + 128) < 0x80) := by
          rw [UInt8.lt_iff_toNat_lt, byte]
          exact Nat.not_lt.mpr (Nat.le_add_left 128 _)
        have high : n / 128 < 2 * 128 ^ budget := by
          rw [Nat.pow_succ] at small
          omega
        rw [putVarintWithin, if_neg final, List.cons_append, takeVarint, if_neg above,
          induction _ high, byte]
        simp only [Option.bind_eq_bind, Option.bind_some, Option.some.injEq, Prod.mk.injEq,
          and_true]
        omega

theorem decodeVarint_put {n : Nat} (small : n < 2 ^ 64) (rest : Bytes) :
    decodeVarint (putVarint n ++ rest) = some (n, rest) :=
  takeVarint_put 9 n (by omega) rest

theorem WireType.ofKey_code (tag : Nat) (wireType : WireType) :
    WireType.ofKey (8 * tag + wireType.code) = some wireType := by
  have low : (8 * tag + wireType.code) % 8 = wireType.code := by
    rw [Nat.mul_add_mod]
    cases wireType <;> rfl
  rw [WireType.ofKey, low]
  cases wireType <;> rfl

theorem decodeKey_put {tag : Nat} (positive : 0 < tag) (small : tag < 2 ^ 29)
    (wireType : WireType) (rest : Bytes) :
    decodeKey (putKey tag wireType ++ rest) = some (tag, wireType, rest) := by
  have code : wireType.code < 8 := by cases wireType <;> decide
  have key : 8 * tag + wireType.code < 2 ^ 32 := by omega
  have quotient : (8 * tag + wireType.code) / 8 = tag := by omega
  rw [decodeKey, putKey, decodeVarint_put (by omega)]
  simp only [Option.bind_eq_bind, Option.bind_some, WireType.ofKey_code, quotient,
    if_neg (Nat.not_le.mpr key), if_neg (Nat.ne_of_gt positive)]

theorem takeBytes_append (bytes rest : Bytes) :
    takeBytes bytes.length (bytes ++ rest) = some (bytes, rest) := by
  rw [takeBytes, if_pos (by simp), List.take_left, List.drop_left]

theorem putKey_ne_nil (tag : Nat) (wireType : WireType) : putKey tag wireType ≠ [] := by
  rw [putKey, putVarint, putVarintWithin]
  split <;> exact List.cons_ne_nil _ _

theorem putField_ne_nil (field : Field) : putField field ≠ [] := by
  obtain ⟨tag, payload⟩ := field
  cases payload <;> simp [putField, putKey_ne_nil]

/-- One step of the reader, where there is a field to read. -/
theorem takeFields_step {depth fuel : Nat} {bytes : Bytes} (nonempty : bytes ≠ []) :
    takeFields depth (fuel + 1) bytes = (do
      let (tag, wireType, rest) ← decodeKey bytes
      let (payload, rest) ← takeValue depth wireType tag rest
      let fields ← takeFields depth fuel rest
      some (⟨tag, payload⟩ :: fields)) := by
  cases bytes with
  | nil => exact absurd rfl nonempty
  | cons byte bytes => rfl

theorem takeField_put {field : Field} (writable : field.Writable) (depth : Nat)
    (rest : Bytes) :
    ∃ wireType value, decodeKey (putField field ++ rest) = some (field.tag, wireType, value) ∧
      takeValue depth wireType field.tag value = some (field.payload, rest) := by
  obtain ⟨tag, payload⟩ := field
  obtain ⟨positive, small, fits⟩ := writable
  cases payload with
  | varint value =>
      refine ⟨.varint, putVarint value ++ rest, ?_, ?_⟩
      · rw [putField, List.append_assoc, decodeKey_put positive small]
      · simp only [takeValue, takeScalar, decodeVarint_put fits, Option.bind_eq_bind,
          Option.bind_some]
  | i64 bytes =>
      refine ⟨.i64, bytes ++ rest, ?_, ?_⟩
      · rw [putField, List.append_assoc, decodeKey_put positive small]
      · have taken := takeBytes_append bytes rest
        rw [show bytes.length = 8 from fits] at taken
        simp only [takeValue, takeScalar, taken, Option.bind_eq_bind, Option.bind_some]
  | len body =>
      refine ⟨.len, putVarint body.length ++ (body ++ rest), ?_, ?_⟩
      · rw [putField, List.append_assoc, List.append_assoc, decodeKey_put positive small]
      · simp only [takeValue, takeScalar, decodeVarint_put fits, takeBytes_append,
          Option.bind_eq_bind, Option.bind_some]
  | group =>
      refine ⟨.startGroup, putKey tag .endGroup ++ rest, ?_, ?_⟩
      · rw [putField, List.append_assoc, decodeKey_put positive small]
      · obtain ⟨fuel, enough⟩ : ∃ fuel, (putKey tag .endGroup ++ rest).length = fuel + 1 := by
          refine Nat.exists_eq_succ_of_ne_zero fun empty => putKey_ne_nil tag .endGroup ?_
          exact (List.append_eq_nil_iff.mp (List.length_eq_zero_iff.mp empty)).1
        simp only [takeValue, enough, skipGroup, decodeKey_put positive small,
          Option.bind_eq_bind, Option.bind_some, if_true]
  | i32 bytes =>
      refine ⟨.i32, bytes ++ rest, ?_, ?_⟩
      · rw [putField, List.append_assoc, decodeKey_put positive small]
      · have taken := takeBytes_append bytes rest
        rw [show bytes.length = 4 from fits] at taken
        simp only [takeValue, takeScalar, taken, Option.bind_eq_bind, Option.bind_some]

theorem takeFields_put {fields : List Field} (writable : ∀ field ∈ fields, field.Writable)
    (depth : Nat) {fuel : Nat} (enough : fields.length ≤ fuel) :
    takeFields depth fuel (putFields fields) = some fields := by
  induction fields generalizing fuel with
  | nil => cases fuel <;> rfl
  | cons field fields induction =>
      cases fuel with
      | zero => cases enough
      | succ fuel =>
          have others : ∀ other ∈ fields, other.Writable := fun other member =>
            writable other (List.mem_cons_of_mem _ member)
          obtain ⟨wireType, value, key, first⟩ := takeField_put
            (writable field List.mem_cons_self) depth (putFields fields)
          have written : putFields (field :: fields) = putField field ++ putFields fields :=
            List.flatMap_cons
          have nonempty : putFields (field :: fields) ≠ [] := by
            rw [written]
            exact fun empty => putField_ne_nil field (List.append_eq_nil_iff.mp empty).1
          rw [takeFields_step nonempty, written, key]
          simp only [Option.bind_eq_bind, Option.bind_some, first,
            induction others (Nat.le_of_succ_le_succ enough)]

theorem length_le_putFields (fields : List Field) :
    fields.length ≤ (putFields fields).length := by
  induction fields with
  | nil => exact Nat.le_refl 0
  | cons field fields induction =>
      have positive := List.length_pos_iff.mpr (putField_ne_nil field)
      rw [putFields, List.flatMap_cons, List.length_append, List.length_cons]
      rw [putFields] at induction
      omega

theorem parse_put {fields : List Field} (writable : ∀ field ∈ fields, field.Writable)
    (depth : Nat) : parse depth (putFields fields) = some fields :=
  takeFields_put writable depth (length_le_putFields fields)

/-! Fields that a length alone can keep from being written. -/

def Payload.Canonical : Payload → Prop
  | .varint value => value < 2 ^ 64
  | .len _ => True
  | .i64 _ | .group | .i32 _ => False

def Canonical (fields : List Field) : Prop :=
  ∀ field ∈ fields, 0 < field.tag ∧ field.tag < 2 ^ 29 ∧ field.payload.Canonical

@[simp] theorem canonical_nil : Canonical [] :=
  nofun

theorem canonical_singleton {field : Field} : Canonical [field] ↔
    0 < field.tag ∧ field.tag < 2 ^ 29 ∧ field.payload.Canonical := by
  simp [Canonical]

@[simp] theorem canonical_append {fields more : List Field} :
    Canonical (fields ++ more) ↔ Canonical fields ∧ Canonical more :=
  List.forall_mem_append

theorem length_body_le {fields : List Field} {tag : Nat} {body : Bytes}
    (member : ⟨tag, .len body⟩ ∈ fields) : body.length ≤ (putFields fields).length := by
  induction fields with
  | nil => cases member
  | cons field fields induction =>
      rw [putFields, List.flatMap_cons, List.length_append]
      rcases List.mem_cons.mp member with rfl | later
      · simp only [putField, List.length_append]
        omega
      · have inner := induction later
        rw [putFields] at inner
        omega

theorem Canonical.writable {fields : List Field} (canonical : Canonical fields)
    (small : (putFields fields).length < 2 ^ 64) : ∀ field ∈ fields, field.Writable := by
  rintro ⟨tag, payload⟩ member
  obtain ⟨positive, bounded, fits⟩ := canonical _ member
  refine ⟨positive, bounded, ?_⟩
  cases payload with
  | varint value => exact fits
  | len body => exact Nat.lt_of_le_of_lt (length_body_le member) small
  | i64 bytes | group | i32 bytes => exact fits.elim

theorem Canonical.parse_put {fields : List Field} (canonical : Canonical fields)
    (small : (putFields fields).length < 2 ^ 64) (depth : Nat) :
    parse depth (putFields fields) = some fields :=
  Wire.parse_put (canonical.writable small) depth

end VgiPprof.Wire
