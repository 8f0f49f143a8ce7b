import VgiPprof.Core.Container
import VgiPprof.Worker.GlobWalk

namespace VgiPprof.Worker

open VgiPprof.Core Data

/-! What the `error` column says about a source that could not be read. -/

inductive Stage where
  | read
  | empty
  | gunzip
  | decode
  deriving DecidableEq, Repr

/-- The words that each stage starts its message with. -/
def Stage.opening : Stage → String
  | read => "read "
  | empty => "empty profile (zero bytes)"
  | gunzip => "gzip decompression failed: "
  | decode => "pprof protobuf decode failed: "

def Stage.Opens (stage : Stage) (message : String) : Prop :=
  stage.opening.toList <+: message.toList

/-- Where the way from the source's contents to a profile ends. -/
inductive FailsAt (codec : Codec) : Except IoError Bytes → Stage → Prop
  | read (e : IoError) : FailsAt codec (.error e) .read
  | empty : FailsAt codec (.ok []) .empty
  | gunzip {bytes : Bytes} {e : IoError} (magic : Decoded.hasGzipMagic bytes = true)
      (corrupt : codec.gunzip bytes = .error e) : FailsAt codec (.ok bytes) .gunzip
  | decodeRaw {bytes : Bytes} {e : DecodeError} (nonempty : bytes ≠ [])
      (plain : Decoded.hasGzipMagic bytes = false)
      (rejected : codec.decode bytes = .error e) : FailsAt codec (.ok bytes) .decode
  | decodeInflated {bytes raw : Bytes} {e : DecodeError}
      (magic : Decoded.hasGzipMagic bytes = true) (inflated : codec.gunzip bytes = .ok raw)
      (rejected : codec.decode raw = .error e) : FailsAt codec (.ok bytes) .decode

variable {codec : Codec}

theorem Stage.opening_head?_injective {stage other : Stage}
    (same : stage.opening.toList.head? = other.opening.toList.head?) : stage = other := by
  revert same
  cases stage <;> cases other <;> decide

theorem Stage.opens_append (stage : Stage) (rest : String) :
    stage.Opens (stage.opening ++ rest) := by
  rw [Opens, String.toList_append]
  exact List.prefix_append _ _

theorem Stage.Opens.head? {stage : Stage} {message : String} (opens : stage.Opens message) :
    message.toList.head? = stage.opening.toList.head? := by
  obtain ⟨rest, whole⟩ := opens
  rw [← whole]
  cases stage <;> rfl

theorem Stage.Opens.unique {stage other : Stage} {message : String}
    (opens : stage.Opens message) (otherOpens : other.Opens message) : stage = other :=
  opening_head?_injective (opens.head?.symm.trans otherOpens.head?)

theorem FailsAt.unique {contents : Except IoError Bytes} {stage other : Stage}
    (fails : FailsAt codec contents stage) (otherFails : FailsAt codec contents other) :
    stage = other := by
  -- the magic number, and then what the two decoders answer, rule the other stages out
  cases fails with
  | read e =>
      cases otherFails
      rfl
  | empty =>
      cases otherFails with
      | empty => rfl
      | gunzip magic => exact absurd magic (by decide)
      | decodeRaw nonempty => exact absurd rfl nonempty
      | decodeInflated magic => exact absurd magic (by decide)
  | gunzip magic corrupt =>
      cases otherFails with
      | empty => exact absurd magic (by decide)
      | gunzip => rfl
      | decodeRaw _ plain => exact absurd (magic.symm.trans plain) (by decide)
      | decodeInflated _ inflated => exact nomatch corrupt.symm.trans inflated
  | decodeRaw nonempty plain =>
      cases otherFails with
      | empty => exact absurd rfl nonempty
      | gunzip magic => exact absurd (magic.symm.trans plain) (by decide)
      | decodeRaw => rfl
      | decodeInflated => rfl
  | decodeInflated magic inflated =>
      cases otherFails with
      | empty => exact absurd magic (by decide)
      | gunzip _ corrupt => exact nomatch corrupt.symm.trans inflated
      | decodeRaw => rfl
      | decodeInflated => rfl

namespace Source

/-- Every failure is explained by the stage that its text opens with. -/
theorem decodeBytes_fails {bytes : Bytes} {message : String}
    (failed : decodeBytes codec bytes = .error message) :
    ∃ stage, FailsAt codec (.ok bytes) stage ∧ stage.Opens message := by
  rw [decodeBytes] at failed
  by_cases empty : bytes = []
  · subst empty
    rw [Decoded.fromBytes_nil] at failed
    cases failed
    exact ⟨.empty, .empty, List.prefix_refl _⟩
  · cases magic : Decoded.hasGzipMagic bytes with
    | false =>
        rw [Decoded.fromBytes_raw codec empty magic] at failed
        cases decoded : codec.decode bytes with
        | ok profile =>
            rw [Decoded.ofRaw_of_decode codec decoded] at failed
            cases failed
        | error e =>
            rw [Decoded.ofRaw_of_reject codec decoded] at failed
            cases failed
            exact ⟨.decode, .decodeRaw empty magic decoded, Stage.decode.opens_append _⟩
    | true =>
        rw [Decoded.fromBytes_gzip codec magic] at failed
        cases inflated : codec.gunzip bytes with
        | error e =>
            rw [inflated] at failed
            cases failed
            exact ⟨.gunzip, .gunzip magic inflated, Stage.gunzip.opens_append _⟩
        | ok raw =>
            simp only [inflated, Except.mapError, Except.bind] at failed
            cases decoded : codec.decode raw with
            | ok profile =>
                rw [Decoded.ofRaw_of_decode codec decoded] at failed
                cases failed
            | error e =>
                rw [Decoded.ofRaw_of_reject codec decoded] at failed
                cases failed
                exact ⟨.decode, .decodeInflated magic inflated decoded,
                  Stage.decode.opens_append _⟩

theorem decodeFile_fails {fs : FileSystem} {path message : String}
    (failed : decodeFile codec fs path = .error message) :
    ∃ stage, FailsAt codec (fs.read (Utf8.encode path)) stage ∧ stage.Opens message := by
  rw [decodeFile] at failed
  cases content : fs.read (Utf8.encode path) with
  | error e =>
      rw [content] at failed
      cases failed
      have text : "read " ++ path ++ ": " ++ e.message =
          Stage.read.opening ++ (path ++ (": " ++ e.message)) := by
        rw [String.append_assoc, String.append_assoc]
        rfl
      have opens := Stage.read.opens_append (path ++ (": " ++ e.message))
      rw [← text] at opens
      exact ⟨.read, .read e, opens⟩
  | ok bytes =>
      rw [content] at failed
      exact decodeBytes_fails failed

/-- What a unit was decoded from. -/
def contents (fs : FileSystem) (args : Arguments) (pos : Nat) (unit : DecodeUnit) :
    Except IoError Bytes :=
  match unit.file with
  | some path => fs.read (Utf8.encode path)
  | none => .ok ((blobBytes args pos).getD [])

theorem mem_resolve {fs : FileSystem} {args : Arguments} {pos : Nat}
    {units : List DecodeUnit} (resolved : resolve codec fs args pos = .ok units)
    {unit : DecodeUnit} (member : unit ∈ units) :
    (∃ path, unit = fileUnit codec fs path) ∨
      ∃ bytes, blobBytes args pos = some bytes ∧ unit = ⟨none, decodeBytes codec bytes⟩ := by
  cases found : pathSpecs args pos with
  | error error =>
      rw [resolve, found] at resolved
      cases resolved
  | ok specs =>
      cases specs with
      | some specs =>
          rw [resolve_of_specs codec fs found] at resolved
          cases resolved
          obtain ⟨path, -, rfl⟩ := List.mem_map.mp member
          exact .inl ⟨path, rfl⟩
      | none =>
          rw [resolve, found] at resolved
          simp only [bind, Except.bind] at resolved
          cases blob : blobBytes args pos with
          | none =>
              rw [blob] at resolved
              cases resolved
          | some bytes =>
              rw [blob] at resolved
              cases resolved
              exact .inr ⟨bytes, rfl, List.mem_singleton.mp member⟩

theorem resolve_fails {fs : FileSystem} {args : Arguments} {pos : Nat}
    {units : List DecodeUnit} (resolved : resolve codec fs args pos = .ok units)
    {unit : DecodeUnit} (member : unit ∈ units) {message : String}
    (failed : unit.result = .error message) :
    ∃ stage, FailsAt codec (contents fs args pos unit) stage ∧ stage.Opens message := by
  obtain ⟨path, rfl⟩ | ⟨bytes, blob, rfl⟩ := mem_resolve resolved member
  · exact decodeFile_fails failed
  · rw [contents, blob]
    exact decodeBytes_fails failed

/-- The message of an error row starts with the words of one stage, and of that stage
the failure is: no name of a file and no text of a library's error can disguise it. -/
theorem error_names_stage (codec : Codec) (fs : FileSystem) (args : Arguments) (pos : Nat)
    (units : List DecodeUnit) (resolved : resolve codec fs args pos = .ok units) :
    ∀ unit ∈ units, ∀ message, unit.result = .error message →
      (∃ stage : Stage, stage.Opens message) ∧
      ∀ stage : Stage, stage.Opens message ↔
        FailsAt codec (contents fs args pos unit) stage := by
  intro unit member message failed
  obtain ⟨stage, fails, opens⟩ := resolve_fails resolved member failed
  refine ⟨⟨stage, opens⟩, fun other => ?_⟩
  constructor
  · intro otherOpens
    rw [otherOpens.unique opens]
    exact fails
  · intro otherFails
    rw [otherFails.unique fails]
    exact opens

/-- A file that is missing, under a name that looks like another failure. -/
theorem error_names_stage_emptyFiles :
    FailsAt plainCodec (contents (twoFiles []) (varcharArg "gzip decompression failed") 0
      (fileUnit plainCodec (twoFiles []) "gzip decompression failed")) .read := by
  have missing : (fileUnit plainCodec (twoFiles []) "gzip decompression failed").result =
      .error "read gzip decompression failed: No such file or directory (os error 2)" := by
    rfl
  obtain ⟨-, stages⟩ := error_names_stage plainCodec (twoFiles [])
    (varcharArg "gzip decompression failed") 0
    [fileUnit plainCodec (twoFiles []) "gzip decompression failed"] rfl _
    List.mem_cons_self _ missing
  apply (stages .read).mp
  exact Stage.read.opens_append
    "gzip decompression failed: No such file or directory (os error 2)"

end Source

end VgiPprof.Worker
