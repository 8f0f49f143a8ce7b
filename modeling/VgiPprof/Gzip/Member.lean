import VgiPprof.Data.Bytes

namespace VgiPprof.Gzip

/-! Gzip members whose deflate data is stored: header, blocks of at most 65535
plain bytes, checksum and size. -/

def crcBit (crc : UInt32) : UInt32 :=
  if crc &&& 1 = 1 then (crc >>> 1) ^^^ 0xedb88320 else crc >>> 1

def crcByte (crc : UInt32) (byte : UInt8) : UInt32 :=
  (List.range 8).foldl (fun crc _ => crcBit crc) (crc ^^^ byte.toUInt32)

def crc32 (bytes : Bytes) : UInt32 :=
  bytes.foldl crcByte 0xffffffff ^^^ 0xffffffff

def littleEndian : Nat → Nat → Bytes
  | 0, _ => []
  | width + 1, n => UInt8.ofNat n :: littleEndian width (n / 256)

def header : Bytes :=
  [0x1f, 0x8b, 0x08, 0x00, 0x00, 0x00, 0x00, 0x00, 0x00, 0xff]

def trailer (body : Bytes) : Bytes :=
  littleEndian 4 (crc32 body).toNat ++ littleEndian 4 body.length

def storedMember (body : Bytes) : Bytes :=
  header ++ 0x01 :: littleEndian 2 body.length ++
    littleEndian 2 (65535 - body.length) ++ body ++ trailer body

def takeBlocks : Nat → Bytes → Option (Bytes × Bytes)
  | fuel + 1, kind :: low :: high :: lowCheck :: highCheck :: bytes =>
      let size := low.toNat + 256 * high.toNat
      if kind &&& 0x06 ≠ 0 ∨ [lowCheck, highCheck] ≠ littleEndian 2 (65535 - size) ∨
          bytes.length < size then none
      else if kind &&& 0x01 = 1 then some (bytes.take size, bytes.drop size)
      else do
        let (more, rest) ← takeBlocks fuel (bytes.drop size)
        some (bytes.take size ++ more, rest)
  | _, _ => none

def takeMember (bytes : Bytes) : Option (Bytes × Bytes) := do
  if bytes.take 4 ≠ header.take 4 then none
  else
    let (body, rest) ← takeBlocks bytes.length (bytes.drop 10)
    if rest.take 8 = trailer body then some (body, rest.drop 8) else none

theorem length_littleEndian (width n : Nat) :
    (littleEndian width n).length = width := by
  induction width generalizing n with
  | zero => rfl
  | succ width ih => simp [littleEndian, ih]

theorem length_trailer (body : Bytes) : (trailer body).length = 8 := by
  simp [trailer, length_littleEndian]

theorem takeMember_storedMember {body : Bytes} (small : body.length < 65536)
    (rest : Bytes) : takeMember (storedMember body ++ rest) = some (body, rest) := by
  have size : body.length % 256 + 256 * (body.length / 256 % 256) = body.length := by
    omega
  have stored : (0x01 : UInt8) &&& 0x06 = 0 := by decide
  have blocks : ∀ fuel, takeBlocks (fuel + 1)
      (0x01 :: littleEndian 2 body.length ++ littleEndian 2 (65535 - body.length) ++
        body ++ trailer body ++ rest) = some (body, trailer body ++ rest) := by
    intro fuel
    simp [littleEndian, takeBlocks, size, stored]
  have layout : storedMember body ++ rest = header ++
      (0x01 :: littleEndian 2 body.length ++ littleEndian 2 (65535 - body.length) ++
        body ++ trailer body ++ rest) := by
    simp [storedMember]
  have start : (storedMember body ++ rest).take 4 = header.take 4 := by
    rw [layout]
    rfl
  have afterHeader : (storedMember body ++ rest).drop 10 =
      0x01 :: littleEndian 2 body.length ++ littleEndian 2 (65535 - body.length) ++
        body ++ trailer body ++ rest := by
    rw [layout]
    rfl
  have fuel : ∃ fuel, (storedMember body ++ rest).length = fuel + 1 :=
    ⟨(storedMember body ++ rest).length - 1, by simp [storedMember, header]⟩
  obtain ⟨fuel, length⟩ := fuel
  rw [takeMember, if_neg (by simpa using start), afterHeader, length, blocks]
  have checked : (trailer body ++ rest).take 8 = trailer body := by
    rw [List.take_left' (length_trailer body)]
  simp only [Option.bind_eq_bind, Option.bind_some, checked, if_true,
    List.drop_left' (length_trailer body)]

example : crc32 [0x31, 0x32, 0x33, 0x34, 0x35, 0x36, 0x37, 0x38, 0x39] =
    0xcbf43926 := by decide +kernel

end VgiPprof.Gzip
