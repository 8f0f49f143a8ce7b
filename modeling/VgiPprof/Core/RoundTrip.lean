import VgiPprof.Core.Container
import VgiPprof.Core.ProtoEncode

namespace VgiPprof.Core

/-! Profiles through the bytes they are stored as. -/

/-- What is relied on of the generated decoder: what the wire format and
`profile.proto` make of some bytes, it makes of them too. -/
def Proto.FollowsSchema (decode : Bytes → Except DecodeError Proto.Profile) : Prop :=
  ∀ bytes profile, Proto.Profile.decode bytes = .ok profile → decode bytes = .ok profile

theorem storedCodec_followsSchema : Proto.FollowsSchema storedCodec.decode :=
  fun _ _ decoded => decoded

/-- What a file may hold for a profile: its encoding, bare or in a gzip member that
anything may follow. -/
inductive Written (codec : Codec) (profile : Proto.Profile) : Bytes → Prop
  | bare (nonempty : profile ≠ {}) : Written codec profile profile.encode
  | wrapped {member : Bytes} (isMember : Decoded.IsGzipMember codec member profile.encode)
      (rest : Bytes) : Written codec profile (member ++ rest)

namespace Decoded

variable (codec : Codec) {profile : Proto.Profile}

theorem ofRaw_encode (follows : Proto.FollowsSchema codec.decode)
    (small : profile.encode.length < 2 ^ 64) :
    ofRaw codec profile.encode = .ok (ofProfile profile) :=
  ofRaw_of_decode codec (follows _ _ (profile.decode_encode small))

theorem fromBytes_encode (follows : Proto.FollowsSchema codec.decode)
    (small : profile.encode.length < 2 ^ 64) (nonempty : profile ≠ {}) :
    fromBytes codec profile.encode = .ok (ofProfile profile) := by
  have bytes : profile.encode ≠ [] := fun empty =>
    nonempty ((Proto.Profile.encode_eq_nil_iff small).mp empty)
  rw [fromBytes_raw _ bytes (hasGzipMagic_of_message (profile.encode_message small))]
  exact ofRaw_encode codec follows small

theorem fromBytes_member (follows : Proto.FollowsSchema codec.decode)
    (small : profile.encode.length < 2 ^ 64) {member : Bytes}
    (isMember : IsGzipMember codec member profile.encode) (rest : Bytes) :
    fromBytes codec (member ++ rest) = .ok (ofProfile profile) := by
  rw [fromBytes_gzip _ (hasGzipMagic_append isMember.magic rest), isMember.inflates]
  simp only [Except.mapError, Except.bind, ofRaw_encode codec follows small]

theorem fromBytes_written (follows : Proto.FollowsSchema codec.decode)
    (small : profile.encode.length < 2 ^ 64) {bytes : Bytes}
    (written : Written codec profile bytes) :
    fromBytes codec bytes = .ok (ofProfile profile) := by
  cases written with
  | bare nonempty => exact fromBytes_encode codec follows small nonempty
  | wrapped isMember rest => exact fromBytes_member codec follows small isMember rest

/-- A profile survives its encoding.  Only the profile without content does not
survive it bare: its encoding is empty, and empty bytes are an error. -/
theorem fromBytes_roundTrip (follows : Proto.FollowsSchema codec.decode)
    (profile : Proto.Profile) (small : profile.encode.length < 2 ^ 64) :
    (fromBytes codec profile.encode =
      if profile = {} then .error .empty else .ok (ofProfile profile)) ∧
    (∀ member rest, IsGzipMember codec member profile.encode →
      fromBytes codec (member ++ rest) = .ok (ofProfile profile)) ∧
    ∀ other : Proto.Profile, other.encode.length < 2 ^ 64 →
      other.encode = profile.encode → other = profile := by
  refine ⟨?_, fun member rest isMember =>
    fromBytes_member codec follows small isMember rest, ?_⟩
  · split
    · rename_i blank
      rw [blank]
      rfl
    · rename_i nonempty
      exact fromBytes_encode codec follows small nonempty
  · intro other otherSmall same
    have decoded := other.decode_encode otherSmall
    rw [same, profile.decode_encode small] at decoded
    exact (Except.ok.inj decoded).symm

def smallProfile : Proto.Profile where
  stringTable := ["", "main"]
  sample := [{ locationId := [1], value := [-3] }]

theorem fromBytes_roundTrip_smallProfile :
    (fromBytes storedCodec smallProfile.encode =
      if smallProfile = {} then .error .empty else .ok (ofProfile smallProfile)) ∧
    fromBytes storedCodec (Gzip.storedMember smallProfile.encode ++ [0]) =
      .ok (ofProfile smallProfile) := by
  obtain ⟨bare, wrapped, -⟩ :=
    fromBytes_roundTrip storedCodec storedCodec_followsSchema smallProfile (by decide)
  exact ⟨bare, wrapped _ _ (isGzipMember_stored (by decide))⟩

end Decoded

end VgiPprof.Core
