import VgiPprof.Core.RoundTrip
import VgiPprof.Worker.Producers

namespace VgiPprof.Worker

open Arrow VgiPprof.Core Data

/-! From profiles on disk to the rows that a producer of them delivers. -/

/-- The files hold these profiles, each under its path. -/
def OnDisk (codec : Codec) (fs : FileSystem) (sources : List (String × Proto.Profile)) : Prop :=
  ∀ source ∈ sources, source.2.encode.length < 2 ^ 64 ∧
    ∃ bytes, fs.read (Utf8.encode source.1) = .ok bytes ∧ Written codec source.2 bytes

def sourceUnit (source : String × Proto.Profile) : DecodeUnit :=
  ⟨some source.1, .ok (.ofProfile source.2)⟩

variable (codec : Codec)

theorem OnDisk.fileUnits (follows : Proto.FollowsSchema codec.decode) {fs : FileSystem}
    {sources : List (String × Proto.Profile)} (onDisk : OnDisk codec fs sources) :
    (sources.map Prod.fst).map (Source.fileUnit codec fs) = sources.map sourceUnit := by
  rw [List.map_map]
  apply List.map_congr_left
  intro source member
  obtain ⟨small, bytes, content, written⟩ := onDisk source member
  have decoded : Source.decodeFile codec fs source.1 = .ok (.ofProfile source.2) :=
    (Source.decodeFile_eq_ok_iff _ _ _ _).mpr
      ⟨bytes, content, Decoded.fromBytes_written codec follows small written⟩
  rw [Function.comp_apply, Source.fileUnit, decoded]
  rfl

/-- The rows of a profile under its path, with no error. -/
def sourceRows (target : Target) (table : TableFunction) (source : String × Proto.Profile) :
    List (List Value) :=
  (table.dataRows target (.ofProfile source.2)).map (· ++ [.utf8 source.1, .null])

theorem rows_sourceUnits (target : Target) (table : TableFunction)
    (sources : List (String × Proto.Profile)) :
    table.rows target (sources.map sourceUnit) =
      sources.flatMap (sourceRows target table) := by
  rw [TableFunction.rows, List.flatMap_map]
  rfl

/-- What profilers wrote is what a producer delivers: whichever literals, wildcards or
lists lead to the files, bare or compressed, its first batch holds their rows and it
has no other. -/
theorem producer_of_written (follows : Proto.FollowsSchema codec.decode) (target : Target)
    (fs : FileSystem) (table : TableFunction) (args : Arguments)
    (sources : List (String × Proto.Profile)) (specs : List String)
    (found : Source.pathSpecs args 0 = .ok (some specs))
    (paths : specs.flatMap (Source.expand fs) = sources.map Prod.fst)
    (onDisk : OnDisk codec fs sources)
    (limits : table.WithinLimits target (sources.map sourceUnit)) :
    ∃ producer batch finished,
      table.producer codec target fs ⟨args, table.onBind.outputSchema⟩ = .ok producer ∧
      producer.nextBatch = (.ok (.ok (some batch)), finished) ∧
      finished.nextBatch = (.ok (.ok none), finished) ∧
      batch.rows = sources.flatMap (sourceRows target table) := by
  have resolved := Source.resolve_of_specs codec fs found
  rw [paths, onDisk.fileUnits codec follows] at resolved
  obtain ⟨batch, built, rows, -⟩ := table.build_of_withinLimits target _ limits
  have created : table.producer codec target fs ⟨args, table.onBind.outputSchema⟩ =
      .ok (OneShot.new table.outputSchema (sources.map sourceUnit) (table.build target)) :=
    producer_of_resolve codec target table resolved
  refine ⟨_, batch, _, created, Prod.ext ?_ rfl, rfl, rows.trans ?_⟩
  · exact congrArg (Except.map fun built => built.map some) built
  · exact rows_sourceUnits target table sources

/-! Two files, one bare and one compressed. -/

def storedFiles : FileSystem where
  read path :=
    if path = Utf8.encode "a.pb" then .ok Decoded.smallProfile.encode
    else if path = Utf8.encode "b.pb.gz" then
      .ok (Gzip.storedMember Decoded.smallProfile.encode)
    else .error ⟨"No such file or directory (os error 2)"⟩
  glob _ := some []

def storedPaths : Arguments where
  constStr _ := none
  arg pos := if pos = 0 then some (.list (.utf8 [some "a.pb", some "b.pb.gz"])) else none

def storedSources : List (String × Proto.Profile) :=
  [("a.pb", Decoded.smallProfile), ("b.pb.gz", Decoded.smallProfile)]

theorem storedFiles_onDisk : OnDisk storedCodec storedFiles storedSources := by
  intro source member
  simp only [storedSources, List.mem_cons, List.not_mem_nil, or_false] at member
  rcases member with rfl | rfl
  · exact ⟨by decide, _, rfl, .bare (by decide)⟩
  · refine ⟨by decide, _, rfl, ?_⟩
    have wrapped := Written.wrapped (Decoded.isGzipMember_stored
      (show Decoded.smallProfile.encode.length < 65536 by decide)) []
    rwa [List.append_nil] at wrapped

def storedRow (file : String) : List Value :=
  [.int64 1, .list [.uint64 1], .list [.int64 (-3)], .map [], .utf8 file, .null]

theorem producer_of_written_storedFiles :
    ∃ producer batch finished,
      TableFunction.samplesTable.producer storedCodec .native storedFiles
        ⟨storedPaths, Samples.outputSchema⟩ = .ok producer ∧
      producer.nextBatch = (.ok (.ok (some batch)), finished) ∧
      finished.nextBatch = (.ok (.ok none), finished) ∧
      batch.rows = [storedRow "a.pb", storedRow "b.pb.gz"] :=
  producer_of_written storedCodec storedCodec_followsSchema .native storedFiles .samplesTable
    storedPaths storedSources ["a.pb", "b.pb.gz"] rfl (by decide) storedFiles_onDisk
    (by decide)

end VgiPprof.Worker
