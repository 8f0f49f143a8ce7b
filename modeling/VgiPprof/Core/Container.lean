import VgiPprof.Core.ProtoDecode
import VgiPprof.Gzip.Member

namespace VgiPprof.Core

open Data

/-! How `from_bytes` finds the message in the bytes it is given. -/

/-- A codec with both libraries filled in: stored gzip members, and the wire
format decoder. -/
def storedCodec : Codec where
  gunzip bytes :=
    match Gzip.takeMember bytes with
    | some (body, _) => .ok body
    | none => .error ⟨"corrupt deflate stream"⟩
  decode := Proto.Profile.decode

/-- The message `bytes` hold, directly or behind the gzip wrapper. -/
def Carries (codec : Codec) (bytes : Bytes) (profile : Proto.Profile) : Prop :=
  ∃ raw, codec.decode raw = .ok profile ∧
    if Decoded.hasGzipMagic bytes then codec.gunzip bytes = .ok raw
    else raw = bytes

/-- The other order: decode first, and inflate only what the decoder rejects and
`1f 8b` starts. -/
def rawFirst (codec : Codec) (bytes : Bytes) : Except PprofError Decoded :=
  match codec.decode bytes with
  | .ok profile => .ok (.ofProfile profile)
  | .error error =>
      if [0x1f, 0x8b].isPrefixOf bytes then
        match codec.gunzip bytes with
        | .error inflate => .error (.gunzip inflate)
        | .ok raw =>
            match codec.decode raw with
            | .ok profile => .ok (.ofProfile profile)
            | .error error => .error (.decode error)
      else .error (.decode error)

namespace Decoded

variable (codec : Codec)

def ofRaw (raw : Bytes) : Except PprofError Decoded :=
  ((codec.decode raw).mapError .decode).map ofProfile

theorem ofRaw_of_decode {raw : Bytes} {profile : Proto.Profile}
    (decoded : codec.decode raw = .ok profile) :
    ofRaw codec raw = .ok (ofProfile profile) := by
  rw [ofRaw, decoded]
  rfl

theorem ofRaw_of_reject {raw : Bytes} {error : DecodeError}
    (rejected : codec.decode raw = .error error) :
    ofRaw codec raw = .error (.decode error) := by
  rw [ofRaw, rejected]
  rfl

theorem bind_ofProfile (raw : Bytes) :
    (((codec.decode raw).mapError PprofError.decode).bind fun profile =>
      .ok (ofProfile profile)) = ofRaw codec raw := by
  rw [ofRaw]
  cases codec.decode raw <;> rfl

theorem fromBytes_nil : fromBytes codec [] = .error .empty := rfl

theorem fromBytes_raw {bytes : Bytes} (nonempty : bytes ≠ [])
    (plain : hasGzipMagic bytes = false) :
    fromBytes codec bytes = ofRaw codec bytes := by
  have notEmpty : bytes.isEmpty = false := by simpa using nonempty
  simp only [fromBytes, notEmpty, plain, Bool.false_eq_true, if_false]
  exact bind_ofProfile codec bytes

theorem fromBytes_gzip {bytes : Bytes} (magic : hasGzipMagic bytes = true) :
    fromBytes codec bytes =
      ((codec.gunzip bytes).mapError .gunzip).bind (ofRaw codec) := by
  have notEmpty : bytes.isEmpty = false := by
    cases bytes with
    | nil => simp [hasGzipMagic] at magic
    | cons byte bytes => rfl
  simp only [fromBytes, notEmpty, magic, Bool.false_eq_true, if_false, if_true]
  cases codec.gunzip bytes with
  | error error => rfl
  | ok raw =>
      exact bind_ofProfile codec raw

theorem ofRaw_ok_iff {raw : Bytes} {d : Decoded} :
    ofRaw codec raw = .ok d ↔
      ∃ profile, codec.decode raw = .ok profile ∧ d = ofProfile profile := by
  constructor
  · intro decoded
    cases found : codec.decode raw with
    | error error => simp [ofRaw_of_reject codec found] at decoded
    | ok profile =>
        rw [ofRaw_of_decode codec found] at decoded
        exact ⟨profile, rfl, (Except.ok.inj decoded).symm⟩
  · rintro ⟨profile, found, rfl⟩
    exact ofRaw_of_decode codec found

/-- `from_bytes` succeeds exactly on non-empty bytes that carry a message. -/
theorem fromBytes_ok_iff {bytes : Bytes} {d : Decoded} :
    fromBytes codec bytes = .ok d ↔
      bytes ≠ [] ∧ ∃ profile, Carries codec bytes profile ∧ d = ofProfile profile := by
  by_cases empty : bytes = []
  · subst empty
    simp [fromBytes_nil]
  · cases magic : hasGzipMagic bytes with
    | false =>
        rw [fromBytes_raw codec empty magic, ofRaw_ok_iff]
        simp [Carries, magic, empty]
    | true =>
        rw [fromBytes_gzip codec magic]
        cases inflated : codec.gunzip bytes with
        | error error => simp [Carries, magic, inflated, Except.mapError, Except.bind]
        | ok raw =>
            simp only [Except.mapError, Except.bind, ofRaw_ok_iff]
            simp [Carries, magic, inflated, empty]

/-! Sniffing. -/

theorem hasGzipMagic_eq (bytes : Bytes) :
    hasGzipMagic bytes = [0x1f, 0x8b].isPrefixOf bytes := by
  match bytes with
  | [] => rfl
  | [_] => simp [hasGzipMagic, List.isPrefixOf]
  | first :: second :: rest =>
      simp only [hasGzipMagic, List.isPrefixOf, Bool.and_true]
      rw [Bool.beq_comm, Bool.beq_comm (a := second)]

/-- The second half of the magic never matters: `1f` announces wire type 7. -/
theorem hasGzipMagic_of_message {bytes : Bytes} {fields : List Wire.Field}
    (message : Wire.Message bytes fields) : hasGzipMagic bytes = false := by
  match bytes, message with
  | [], _ => rfl
  | [_], _ => rfl
  | first :: second :: rest, message =>
      have bound := message.head_mod_lt
      have notMagic : (first == 0x1f) = false := by
        apply beq_false_of_ne
        rintro rfl
        exact absurd bound (by decide)
      simp [hasGzipMagic, notMagic]

/-- Sniffing two bytes does what decoding first and inflating second would. -/
theorem fromBytes_eq_rawFirst (follows : Proto.FollowsWireFormat codec.decode)
    {bytes : Bytes} (nonempty : bytes ≠ []) :
    (∀ profile, codec.decode bytes = .ok profile →
      fromBytes codec bytes = .ok (ofProfile profile)) ∧
    fromBytes codec bytes = rawFirst codec bytes := by
  have accepted : ∀ profile, codec.decode bytes = .ok profile →
      fromBytes codec bytes = .ok (ofProfile profile) := by
    intro profile decoded
    obtain ⟨fields, message⟩ := follows bytes profile decoded
    rw [fromBytes_raw codec nonempty (hasGzipMagic_of_message message),
      ofRaw_of_decode codec decoded]
  refine ⟨accepted, ?_⟩
  cases decoded : codec.decode bytes with
  | ok profile => rw [accepted profile decoded, rawFirst, decoded]
  | error error =>
      cases magic : hasGzipMagic bytes with
      | false =>
          rw [fromBytes_raw codec nonempty magic, ofRaw_of_reject codec decoded]
          simp [rawFirst, decoded, ← hasGzipMagic_eq, magic]
      | true =>
          rw [fromBytes_gzip codec magic]
          simp only [rawFirst, decoded, ← hasGzipMagic_eq, magic, if_true]
          cases codec.gunzip bytes with
          | error inflate => rfl
          | ok raw =>
              simp only [Except.mapError, Except.bind]
              cases redecoded : codec.decode raw with
              | ok profile => exact ofRaw_of_decode codec redecoded
              | error error => exact ofRaw_of_reject codec redecoded

theorem fromBytes_eq_rawFirst_unknownField :
    fromBytes storedCodec [0xaa, 0x06, 0x01, 0x7a, 0x60, 0x85, 0x00] =
      rawFirst storedCodec [0xaa, 0x06, 0x01, 0x7a, 0x60, 0x85, 0x00] :=
  (fromBytes_eq_rawFirst storedCodec Proto.Profile.decode_followsWireFormat
    (by decide)).2

/-! Gzip wrapping. -/

/-- A gzip member as `GzDecoder` sees it: it starts with the magic, and reading
stops where the member ends, whatever follows. -/
structure IsGzipMember (member body : Bytes) : Prop where
  magic : hasGzipMagic member = true
  inflates : ∀ rest, codec.gunzip (member ++ rest) = .ok body

structure SameViews (target : Target) (left right : Decoded) : Prop where
  metaRow : metaRow target left = metaRow target right
  stackRows : Decoded.stacks target left = Decoded.stacks target right
  samples : samples target left = samples target right
  functions : functions target left = functions target right
  locations : locations left = locations right
  mappings : mappings target left = mappings target right

/-- Two attempts that both fail, or both succeed with the same views. -/
inductive Agree {ε δ : Type} (target : Target) : Except ε Decoded → Except δ Decoded → Prop
  | ok {left right : Decoded} (same : SameViews target left right) :
      Agree target (.ok left) (.ok right)
  | error (left : ε) (right : δ) : Agree target (.error left) (.error right)

def fileOf (members : List (Bytes × Bytes)) : Bytes :=
  members.flatMap Prod.fst

def bodyOf (members : List (Bytes × Bytes)) : Bytes :=
  members.flatMap Prod.snd

theorem hasGzipMagic_append {bytes : Bytes} (magic : hasGzipMagic bytes = true)
    (rest : Bytes) : hasGzipMagic (bytes ++ rest) = true := by
  match bytes, magic with
  | _ :: _ :: _, magic => exact magic

theorem fromBytes_fileOf {first : Bytes × Bytes}
    (isMember : IsGzipMember codec first.1 first.2) (others : List (Bytes × Bytes)) :
    fromBytes codec (fileOf (first :: others)) = ofRaw codec first.2 := by
  rw [fileOf, List.flatMap_cons,
    fromBytes_gzip codec (hasGzipMagic_append isMember.magic _), isMember.inflates]
  rfl

theorem Agree.refl {ε : Type} (target : Target) (attempt : Except ε Decoded) :
    Agree target attempt attempt := by
  cases attempt with
  | ok d => exact .ok ⟨rfl, rfl, rfl, rfl, rfl, rfl⟩
  | error error => exact .error error error

theorem bodyOf_of_blank (first : Bytes × Bytes) {others : List (Bytes × Bytes)}
    (blank : ∀ m ∈ others, m.2 = []) : bodyOf (first :: others) = first.2 := by
  rw [bodyOf, List.flatMap_cons, List.flatMap_eq_nil_iff.mpr blank, List.append_nil]

/-- Wrapping is transparent where the first member holds everything there is. -/
theorem gzip_transparent_of_single (target : Target) (first : Bytes × Bytes)
    (others : List (Bytes × Bytes))
    (members : ∀ m ∈ first :: others, IsGzipMember codec m.1 m.2)
    (plain : hasGzipMagic (bodyOf (first :: others)) = false)
    (nonempty : first.2 ≠ []) (blank : ∀ m ∈ others, m.2 = []) :
    Agree target (fromBytes codec (fileOf (first :: others)))
      (fromBytes codec (bodyOf (first :: others))) := by
  have whole := bodyOf_of_blank first blank
  rw [whole] at plain
  rw [whole, fromBytes_fileOf codec (members first List.mem_cons_self),
    fromBytes_raw codec nonempty plain]
  exact Agree.refl target _

theorem isGzipMember_stored {body : Bytes} (small : body.length < 65536) :
    IsGzipMember storedCodec (Gzip.storedMember body) body where
  magic := rfl
  inflates rest := by
    simp only [storedCodec, Gzip.takeMember_storedMember small]

def sampleBody (value : UInt8) : Bytes :=
  [0x12, 0x02, 0x10, value]

def storedPair (body : Bytes) : Bytes × Bytes :=
  (Gzip.storedMember body, body)

/-- One sample, and a member without content behind it. -/
theorem gzip_transparent_of_single_blank :
    Agree .native (fromBytes storedCodec (fileOf [storedPair (sampleBody 1), storedPair []]))
      (fromBytes storedCodec (bodyOf [storedPair (sampleBody 1), storedPair []])) := by
  refine gzip_transparent_of_single storedCodec .native _ _ ?_ (by decide)
    (List.cons_ne_nil _ _) ?_
  · intro m member
    simp only [List.mem_cons, List.not_mem_nil, or_false] at member
    rcases member with rfl | rfl <;> exact isGzipMember_stored (by decide)
  · intro m member
    rw [List.mem_singleton.mp member]
    rfl

def twoMembers : List (Bytes × Bytes) :=
  [storedPair (sampleBody 1), storedPair (sampleBody 2)]

theorem twoMembers_isGzipMember : ∀ m ∈ twoMembers, IsGzipMember storedCodec m.1 m.2 := by
  intro m member
  simp only [twoMembers, List.mem_cons, List.not_mem_nil, or_false] at member
  rcases member with rfl | rfl <;> exact isGzipMember_stored (by decide)

theorem gzip_not_transparent :
    (∀ m ∈ twoMembers, IsGzipMember storedCodec m.1 m.2) ∧
    hasGzipMagic (bodyOf twoMembers) = false ∧
    ¬ Agree .native (fromBytes storedCodec (fileOf twoMembers))
      (fromBytes storedCodec (bodyOf twoMembers)) := by
  refine ⟨twoMembers_isGzipMember, by decide, ?_⟩
  have file : fromBytes storedCodec (fileOf twoMembers) =
      .ok (ofProfile { sample := [{ value := [1] }] }) := by
    rw [twoMembers, fromBytes_fileOf storedCodec (isGzipMember_stored (by decide))]
    exact ofRaw_of_decode storedCodec (by decide)
  have body : fromBytes storedCodec (bodyOf twoMembers) =
      .ok (ofProfile { sample := [{ value := [1] }, { value := [2] }] }) := by
    rw [fromBytes_raw storedCodec (by decide) (by decide)]
    exact ofRaw_of_decode storedCodec (by decide)
  rw [file, body]
  rintro (same | _)
  exact absurd same.samples (by decide)

end Decoded

end VgiPprof.Core
