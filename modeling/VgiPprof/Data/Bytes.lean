import Mathlib.Algebra.Order.Ring.Int

namespace VgiPprof

abbrev Bytes := List UInt8

namespace Utf8

def encode (text : String) : Bytes :=
  text.toUTF8.data.toList

/-- `None` unless the bytes are well-formed UTF-8. -/
def decode? (bytes : Bytes) : Option String :=
  String.fromUTF8? ⟨bytes.toArray⟩

def isContinuation (byte : UInt8) : Bool :=
  0x80 ≤ byte && byte ≤ 0xbf

/-- Which second bytes may follow a lead byte of a three or four byte
character. -/
def isSecond (lead second : UInt8) : Bool :=
  if lead = 0xe0 then 0xa0 ≤ second && second ≤ 0xbf
  else if lead = 0xed then 0x80 ≤ second && second ≤ 0x9f
  else if lead = 0xf0 then 0x90 ≤ second && second ≤ 0xbf
  else if lead = 0xf4 then 0x80 ≤ second && second ≤ 0x8f
  else isContinuation second

/-- Length of the ill-formed piece at the front of bytes that do not start with
a character: the longest beginning of some character, and at least one byte. -/
def illFormedLength : Bytes → Nat
  | lead :: second :: rest =>
      if 0xe0 ≤ lead && lead ≤ 0xf4 && isSecond lead second then
        match rest with
        | third :: _ => if 0xf0 ≤ lead && isContinuation third then 3 else 2
        | [] => 2
      else 1
  | _ => 1

def lossyChars : Nat → Bytes → List Char
  | 0, _ => []
  | _ + 1, [] => []
  | fuel + 1, byte :: rest =>
      match ByteArray.utf8DecodeChar? ⟨(byte :: rest).toArray⟩ 0 with
      | some c => c :: lossyChars fuel ((byte :: rest).drop c.utf8Size)
      | none =>
          '\uFFFD' :: lossyChars fuel
            ((byte :: rest).drop (illFormedLength (byte :: rest)))

/-- Each maximal ill-formed piece becomes one replacement character. -/
def toStringLossy (bytes : Bytes) : String :=
  String.ofList (lossyChars bytes.length bytes)

example : toStringLossy [0x61, 0xff, 0xe2, 0x82, 0x62, 0xc3, 0xa9] =
    "a\uFFFD\uFFFDbé" := by decide

/-! Text survives the trip through its bytes. -/

theorem encode_ofList (chars : List Char) :
    encode (String.ofList chars) = chars.flatMap String.utf8EncodeChar := by
  rw [encode, String.toUTF8_eq_toByteArray, String.toByteArray_ofList, List.utf8Encode,
    List.toList_data_toByteArray]

theorem utf8DecodeChar?_encoded (c : Char) (rest : Bytes) :
    ByteArray.utf8DecodeChar? ⟨(String.utf8EncodeChar c ++ rest).toArray⟩ 0 = some c := by
  have pieces : (⟨(String.utf8EncodeChar c ++ rest).toArray⟩ : ByteArray) =
      (String.utf8EncodeChar c).toByteArray ++ rest.toByteArray := by
    apply ByteArray.ext
    simp [ByteArray.data_append]
  rw [pieces, ByteArray.utf8DecodeChar?_utf8EncodeChar_append]

theorem lossyChars_encoded_append (fuel : Nat) (c : Char) (rest : Bytes) :
    lossyChars (fuel + 1) (String.utf8EncodeChar c ++ rest) = c :: lossyChars fuel rest := by
  have decoded := utf8DecodeChar?_encoded c rest
  have dropped : (String.utf8EncodeChar c ++ rest).drop c.utf8Size = rest := by
    rw [← String.length_utf8EncodeChar, List.drop_left]
  cases bytes : String.utf8EncodeChar c ++ rest with
  | nil =>
      exact absurd (List.append_eq_nil_iff.mp bytes).1 String.utf8EncodeChar_ne_nil
  | cons byte more =>
      rw [bytes] at decoded dropped
      simp only [lossyChars, decoded, dropped]

theorem lossyChars_encoded (chars : List Char) (fuel : Nat)
    (enough : chars.length ≤ fuel) :
    lossyChars fuel (chars.flatMap String.utf8EncodeChar) = chars := by
  induction chars generalizing fuel with
  | nil => cases fuel <;> rfl
  | cons c chars induction =>
      cases fuel with
      | zero => cases enough
      | succ fuel =>
          rw [List.flatMap_cons, lossyChars_encoded_append,
            induction fuel (Nat.le_of_succ_le_succ enough)]

theorem length_le_encoded (chars : List Char) :
    chars.length ≤ (chars.flatMap String.utf8EncodeChar).length := by
  induction chars with
  | nil => exact Nat.le_refl 0
  | cons c chars induction =>
      have positive := c.utf8Size_pos
      rw [List.flatMap_cons, List.length_append, List.length_cons,
        String.length_utf8EncodeChar]
      omega

theorem toStringLossy_encode (text : String) : toStringLossy (encode text) = text := by
  obtain ⟨chars, rfl⟩ := text.exists_eq_ofList
  rw [toStringLossy, encode_ofList, lossyChars_encoded chars _ (length_le_encoded chars)]

theorem decode?_encode (text : String) : decode? (encode text) = some text := by
  have valid : (⟨text.toByteArray.data.toList.toArray⟩ : ByteArray).IsValidUTF8 := by
    rw [Array.toArray_toList]
    exact text.isValidUTF8
  rw [decode?, encode, String.toUTF8_eq_toByteArray, String.fromUTF8?, dif_pos valid]
  exact congrArg some (String.toByteArray_inj.mp rfl)

theorem encode_injective : Function.Injective encode :=
  Function.LeftInverse.injective toStringLossy_encode

end Utf8

end VgiPprof
