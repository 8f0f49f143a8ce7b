import VgiPprof.Wire.Format

namespace VgiPprof.Wire

/-! An executable reader of the wire format.  It admits ten byte varints, 32-bit
keys and a bounded nesting of groups, and is sound for the grammar. -/

/-- At most `budget` bytes, the tenth of which may only carry the 64th bit. -/
def takeVarint : Nat → Bytes → Option (Nat × Bytes)
  | 0, _ => none
  | _ + 1, [] => none
  | budget + 1, byte :: rest =>
      if byte < 0x80 then
        if budget = 0 ∧ 1 < byte then none else some (byte.toNat, rest)
      else do
        let (value, rest) ← takeVarint budget rest
        some (byte.toNat - 128 + 128 * value, rest)

def decodeVarint (bytes : Bytes) : Option (Nat × Bytes) :=
  takeVarint 10 bytes

def decodeKey (bytes : Bytes) : Option (Nat × WireType × Bytes) := do
  let (key, rest) ← decodeVarint bytes
  if 2 ^ 32 ≤ key then none
  else
    let wireType ← WireType.ofKey key
    if key / 8 = 0 then none else some (key / 8, wireType, rest)

def takeBytes (count : Nat) (bytes : Bytes) : Option (Bytes × Bytes) :=
  if count ≤ bytes.length then some (bytes.take count, bytes.drop count) else none

def takeScalar : WireType → Bytes → Option (Payload × Bytes)
  | .varint, bytes => do
      let (value, rest) ← decodeVarint bytes
      some (.varint value, rest)
  | .i64, bytes => do
      let (value, rest) ← takeBytes 8 bytes
      some (.i64 value, rest)
  | .len, bytes => do
      let (size, rest) ← decodeVarint bytes
      let (value, rest) ← takeBytes size rest
      some (.len value, rest)
  | .i32, bytes => do
      let (value, rest) ← takeBytes 4 bytes
      some (.i32 value, rest)
  | .startGroup, _ => none
  | .endGroup, _ => none

def skipGroup : Nat → Nat → Nat → Bytes → Option Bytes
  | 0, _, _, _ => none
  | fuel + 1, depth, tag, bytes => do
      let (inner, wireType, rest) ← decodeKey bytes
      match wireType with
      | .endGroup => if inner = tag then some rest else none
      | .startGroup =>
          if depth = 0 then none
          else do
            let rest ← skipGroup fuel (depth - 1) inner rest
            skipGroup fuel depth tag rest
      | wireType =>
          if depth = 0 then none
          else do
            let (_, rest) ← takeScalar wireType rest
            skipGroup fuel depth tag rest

def takeValue (depth : Nat) (wireType : WireType) (tag : Nat) (bytes : Bytes) :
    Option (Payload × Bytes) :=
  match wireType with
  | .startGroup => do
      let rest ← skipGroup bytes.length (depth - 1) tag bytes
      some (.group, rest)
  | wireType => takeScalar wireType bytes

def takeFields (depth : Nat) : Nat → Bytes → Option (List Field)
  | _, [] => some []
  | 0, _ :: _ => none
  | fuel + 1, byte :: bytes => do
      let (tag, wireType, rest) ← decodeKey (byte :: bytes)
      let (payload, rest) ← takeValue depth wireType tag rest
      let fields ← takeFields depth fuel rest
      some (⟨tag, payload⟩ :: fields)

/-- All fields of a message; every field takes at least one byte, so the length
bounds their number. -/
def parse (depth : Nat) (bytes : Bytes) : Option (List Field) :=
  takeFields depth bytes.length bytes

theorem takeVarint_sound {budget : Nat} {bytes rest : Bytes} {value : Nat}
    (taken : takeVarint budget bytes = some (value, rest)) :
    ∃ used, bytes = used ++ rest ∧ Varint used value := by
  induction budget generalizing bytes value with
  | zero => simp [takeVarint] at taken
  | succ budget ih =>
      cases bytes with
      | nil => simp [takeVarint] at taken
      | cons byte tail =>
          rw [takeVarint] at taken
          by_cases final : byte < 0x80
          · rw [if_pos final] at taken
            split at taken
            · simp at taken
            · simp only [Option.some.injEq, Prod.mk.injEq] at taken
              obtain ⟨rfl, rfl⟩ := taken
              exact ⟨[byte], rfl, .last final⟩
          · simp only [if_neg final, Option.bind_eq_bind,
              Option.bind_eq_some_iff, Option.some.injEq, Prod.mk.injEq] at taken
            obtain ⟨⟨high, tailRest⟩, tailTaken, rfl, rfl⟩ := taken
            obtain ⟨used, rfl, encoded⟩ := ih tailTaken
            exact ⟨byte :: used, rfl, .more final encoded⟩

theorem decodeKey_sound {bytes rest : Bytes} {tag : Nat} {wireType : WireType}
    (decoded : decodeKey bytes = some (tag, wireType, rest)) :
    ∃ used, bytes = used ++ rest ∧ Key used tag wireType := by
  simp only [decodeKey, Option.bind_eq_bind, Option.bind_eq_some_iff] at decoded
  obtain ⟨⟨key, keyRest⟩, taken, decoded⟩ := decoded
  obtain ⟨used, rfl, encoded⟩ := takeVarint_sound taken
  split at decoded
  · simp at decoded
  · obtain ⟨named, isNamed, decoded⟩ := Option.bind_eq_some_iff.mp decoded
    split at decoded
    · simp at decoded
    · rename_i tagNonzero
      simp only [Option.some.injEq, Prod.mk.injEq] at decoded
      obtain ⟨rfl, rfl, rfl⟩ := decoded
      exact ⟨used, rfl, key, encoded, isNamed, rfl, Nat.pos_of_ne_zero tagNonzero⟩

theorem takeBytes_sound {count : Nat} {bytes value rest : Bytes}
    (taken : takeBytes count bytes = some (value, rest)) :
    bytes = value ++ rest ∧ value.length = count := by
  unfold takeBytes at taken
  split at taken
  · rename_i enough
    simp only [Option.some.injEq, Prod.mk.injEq] at taken
    obtain ⟨rfl, rfl⟩ := taken
    exact ⟨(List.take_append_drop count bytes).symm, List.length_take_of_le enough⟩
  · simp at taken

theorem takeScalar_sound {wireType : WireType} {bytes rest : Bytes}
    {payload : Payload} (tag : Nat)
    (taken : takeScalar wireType bytes = some (payload, rest)) :
    ∃ used, bytes = used ++ rest ∧ Value wireType tag used payload := by
  cases wireType with
  | varint =>
      simp only [takeScalar, Option.bind_eq_bind, Option.bind_eq_some_iff,
        Option.some.injEq, Prod.mk.injEq] at taken
      obtain ⟨⟨value, _⟩, decoded, rfl, rfl⟩ := taken
      obtain ⟨used, rfl, encoded⟩ := takeVarint_sound decoded
      exact ⟨used, rfl, .varint encoded⟩
  | i64 =>
      simp only [takeScalar, Option.bind_eq_bind, Option.bind_eq_some_iff,
        Option.some.injEq, Prod.mk.injEq] at taken
      obtain ⟨⟨value, _⟩, cut, rfl, rfl⟩ := taken
      obtain ⟨rfl, size⟩ := takeBytes_sound cut
      exact ⟨value, rfl, .i64 size⟩
  | len =>
      simp only [takeScalar, Option.bind_eq_bind, Option.bind_eq_some_iff,
        Option.some.injEq, Prod.mk.injEq] at taken
      obtain ⟨⟨size, _⟩, decoded, ⟨value, _⟩, cut, rfl, rfl⟩ := taken
      obtain ⟨used, rfl, encoded⟩ := takeVarint_sound decoded
      obtain ⟨rfl, rfl⟩ := takeBytes_sound cut
      exact ⟨used ++ value, by simp, .len encoded⟩
  | i32 =>
      simp only [takeScalar, Option.bind_eq_bind, Option.bind_eq_some_iff,
        Option.some.injEq, Prod.mk.injEq] at taken
      obtain ⟨⟨value, _⟩, cut, rfl, rfl⟩ := taken
      obtain ⟨rfl, size⟩ := takeBytes_sound cut
      exact ⟨value, rfl, .i32 size⟩
  | startGroup => simp [takeScalar] at taken
  | endGroup => simp [takeScalar] at taken

/-- The induction is on the fuel; a nested group and the fields after it are
both read with less of it. -/
theorem skipGroup_sound {fuel depth tag : Nat} {bytes rest : Bytes}
    (skipped : skipGroup fuel depth tag bytes = some rest) :
    ∃ body close fields, bytes = body ++ close ++ rest ∧
      Message body fields ∧ Key close tag .endGroup := by
  induction fuel generalizing depth tag bytes rest with
  | zero => simp [skipGroup] at skipped
  | succ fuel ih =>
      simp only [skipGroup, Option.bind_eq_bind, Option.bind_eq_some_iff] at skipped
      obtain ⟨⟨inner, wireType, keyRest⟩, decoded, skipped⟩ := skipped
      obtain ⟨key, rfl, announced⟩ := decodeKey_sound decoded
      cases wireType with
      | endGroup =>
          by_cases own : inner = tag
          · subst own
            simp only [if_true, Option.some.injEq] at skipped
            subst skipped
            exact ⟨[], key, [], by simp, .nil, announced⟩
          · simp [own] at skipped
      | startGroup =>
          by_cases exhausted : depth = 0
          · simp [exhausted] at skipped
          · simp only [if_neg exhausted, Option.bind_eq_some_iff] at skipped
            obtain ⟨innerRest, innerSkipped, skipped⟩ := skipped
            obtain ⟨innerBody, innerClose, innerFields, rfl, innerMessage,
              innerClosed⟩ := ih innerSkipped
            obtain ⟨body, close, fields, rfl, message, closed⟩ := ih skipped
            exact ⟨key ++ (innerBody ++ innerClose) ++ body, close, _, by simp,
              .cons announced (.group innerMessage innerClosed) message, closed⟩
      | varint | i64 | len | i32 =>
          by_cases exhausted : depth = 0
          · simp [exhausted] at skipped
          · simp only [if_neg exhausted, Option.bind_eq_some_iff] at skipped
            obtain ⟨⟨payload, valueRest⟩, taken, skipped⟩ := skipped
            obtain ⟨value, rfl, isValue⟩ := takeScalar_sound inner taken
            obtain ⟨body, close, fields, rfl, message, closed⟩ := ih skipped
            exact ⟨key ++ value ++ body, close, _, by simp,
              .cons announced isValue message, closed⟩

theorem takeValue_sound {depth tag : Nat} {wireType : WireType}
    {bytes rest : Bytes} {payload : Payload}
    (taken : takeValue depth wireType tag bytes = some (payload, rest)) :
    ∃ used, bytes = used ++ rest ∧ Value wireType tag used payload := by
  cases wireType with
  | startGroup =>
      simp only [takeValue, Option.bind_eq_bind, Option.bind_eq_some_iff,
        Option.some.injEq, Prod.mk.injEq] at taken
      obtain ⟨_, skipped, rfl, rfl⟩ := taken
      obtain ⟨body, close, fields, rfl, message, closed⟩ := skipGroup_sound skipped
      exact ⟨body ++ close, rfl, .group message closed⟩
  | varint | i64 | len | i32 | endGroup => exact takeScalar_sound tag taken

theorem takeFields_sound {depth fuel : Nat} {bytes : Bytes} {fields : List Field}
    (taken : takeFields depth fuel bytes = some fields) : Message bytes fields := by
  induction fuel generalizing bytes fields with
  | zero =>
      cases bytes with
      | nil =>
          simp only [takeFields, Option.some.injEq] at taken
          exact taken ▸ .nil
      | cons byte bytes => simp [takeFields] at taken
  | succ fuel ih =>
      cases bytes with
      | nil =>
          simp only [takeFields, Option.some.injEq] at taken
          exact taken ▸ .nil
      | cons byte bytes =>
          simp only [takeFields, Option.bind_eq_bind, Option.bind_eq_some_iff,
            Option.some.injEq] at taken
          obtain ⟨⟨tag, wireType, keyRest⟩, decoded, ⟨payload, valueRest⟩,
            valueTaken, others, othersTaken, rfl⟩ := taken
          obtain ⟨key, whole, announced⟩ := decodeKey_sound decoded
          obtain ⟨value, rfl, isValue⟩ := takeValue_sound valueTaken
          rw [whole, ← List.append_assoc]
          exact .cons announced isValue (ih othersTaken)

theorem parse_sound {depth : Nat} {bytes : Bytes} {fields : List Field}
    (parsed : parse depth bytes = some fields) : Message bytes fields :=
  takeFields_sound parsed

end VgiPprof.Wire
