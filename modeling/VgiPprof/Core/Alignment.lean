import VgiPprof.Core.Container

namespace VgiPprof.Core

/-! Whether `value[i]` of a row is the measurement `sample_types[i]` names. -/

/-- `profile.proto`: all samples must have the same number of values, the same
as the length of `sample_type`. -/
def Proto.Profile.ValuesMatchTypes (profile : Proto.Profile) : Prop :=
  ∀ sample ∈ profile.sample, sample.value.length = profile.sampleType.length

namespace Decoded

variable (target : Target) (d : Decoded)

structure Aligned : Prop where
  stackRows : ∀ row ∈ Decoded.stacks target d,
    row.value.length = (metaRow target d).sampleTypes.length
  samples : ∀ row ∈ samples target d,
    row.value.length = (metaRow target d).sampleTypes.length

theorem length_sampleTypes :
    (metaRow target d).sampleTypes.length = d.profile.sampleType.length := by
  simp [metaRow]

theorem mem_samples_value {sample : Proto.Sample} (member : sample ∈ d.profile.sample) :
    ∃ row ∈ samples target d, row.value = sample.value := by
  obtain ⟨k, bound, rfl⟩ := List.mem_iff_getElem.mp member
  exact ⟨_, List.mem_mapIdx.mpr ⟨k, bound, rfl⟩, rfl⟩

/-- Rows repeat the values of their sample unchecked, so alignment is a property
of the message alone. -/
theorem aligned_iff : Aligned target d ↔ d.profile.ValuesMatchTypes := by
  constructor
  · intro aligned sample member
    obtain ⟨row, rowMember, same⟩ := mem_samples_value target d member
    rw [← same, ← length_sampleTypes target]
    exact aligned.samples row rowMember
  · intro matching
    have typed (k : Nat) (bound : k < d.profile.sample.length) :
        d.profile.sample[k].value.length = (metaRow target d).sampleTypes.length :=
      (matching _ (List.getElem_mem bound)).trans (length_sampleTypes target d).symm
    constructor
    · intro row member
      obtain ⟨k, bound, rfl⟩ := List.mem_mapIdx.mp member
      exact typed k bound
    · intro row member
      obtain ⟨k, bound, rfl⟩ := List.mem_mapIdx.mp member
      exact typed k bound

/-- `from_bytes` lets every message through, so its rows are aligned exactly
when the message it read was well formed. -/
theorem fromBytes_aligned_iff (codec : Codec) (bytes : Bytes) (d : Decoded)
    (decoded : fromBytes codec bytes = .ok d) :
    ∃ profile, Carries codec bytes profile ∧
      ∀ target, Aligned target d ↔ profile.ValuesMatchTypes := by
  obtain ⟨-, profile, carries, rfl⟩ := (fromBytes_ok_iff codec).mp decoded
  exact ⟨profile, carries, fun target => aligned_iff target (ofProfile profile)⟩

def untypedValue : Bytes :=
  [0x12, 0x02, 0x10, 0x05]

theorem fromBytes_untypedValue :
    fromBytes storedCodec untypedValue =
      .ok (ofProfile { sample := [{ value := [5] }] }) := by
  rw [fromBytes_raw storedCodec (by decide) (by decide)]
  exact ofRaw_of_decode storedCodec (by decide)

theorem fromBytes_aligned_iff_untypedValue :
    ∃ profile, Carries storedCodec untypedValue profile ∧
      ∀ target, Aligned target (ofProfile { sample := [{ value := [5] }] }) ↔
        profile.ValuesMatchTypes :=
  fromBytes_aligned_iff storedCodec untypedValue _ fromBytes_untypedValue

theorem untypedValue_not_aligned :
    ∃ d, fromBytes storedCodec untypedValue = .ok d ∧ ¬ Aligned .native d := by
  refine ⟨_, fromBytes_untypedValue, ?_⟩
  rw [aligned_iff]
  intro matching
  exact absurd (matching { value := [5] } (by decide)) (by decide)

end Decoded

end VgiPprof.Core
