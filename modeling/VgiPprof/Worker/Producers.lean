import VgiPprof.Data.Interleave
import VgiPprof.Worker.Isolation

namespace VgiPprof.Worker

open Arrow VgiPprof.Core Data

/-! The two calls that deliver a table: `producer`, which reads the sources, and
`next_batch` on what it returned, which takes the result out. -/

structure BindResponse where
  outputSchema : Schema
  opaqueData : Bytes

structure ProcessParams where
  arguments : Arguments
  outputSchema : Schema

structure OneShot where
  schema : Schema
  units : Option (List DecodeUnit)
  build : List DecodeUnit → Schema → Run (Except RpcError RecordBatch)

namespace OneShot

def new (schema : Schema) (units : List DecodeUnit)
    (build : List DecodeUnit → Schema → Run (Except RpcError RecordBatch)) : OneShot :=
  ⟨schema, some units, build⟩

/-- The units are gone before they are built from, so a build that fails is not
tried again. -/
def nextBatch (producer : OneShot) : Run (Except RpcError (Option RecordBatch)) × OneShot :=
  match producer.units with
  | some units =>
      ((producer.build units producer.schema).map fun built => built.map some,
        { producer with units := none })
  | none => (.ok (.ok none), producer)

end OneShot

namespace TableFunction

def onBind (table : TableFunction) : BindResponse where
  outputSchema := table.outputSchema
  opaqueData := []

def producer (codec : Codec) (target : Target) (fs : FileSystem) (table : TableFunction)
    (params : ProcessParams) : Except RpcError OneShot := do
  let units ← Source.resolve codec fs params.arguments 0
  .ok (OneShot.new params.outputSchema units (table.build target))

end TableFunction

/-- What any caller may do: ask a table function for a producer, again for one that is
to be created anew, and ask a producer that it holds for its next batch.  In which
order callers do so, and how often, is theirs. -/
def producers (codec : Codec) (target : Target) :
    Component FileSystem (TableFunction × ProcessParams) RpcError OneShot Unit
      (Run (Except RpcError (Option RecordBatch))) where
  start fs request := request.1.producer codec target fs request.2
  step producer _ := producer.nextBatch

/-- The files as they are, and the producers that callers hold. -/
abbrev ProducerState := System FileSystem OneShot

/-- A call, or a change of the files. -/
abbrev ProducerEvent := Event FileSystem (TableFunction × ProcessParams) Unit

/-- What that many calls of `next_batch` return: one result, and the end of the stream
from then on. -/
def once (built : Run (Except RpcError RecordBatch)) :
    Nat → List (Run (Except RpcError (Option RecordBatch)))
  | 0 => []
  | calls + 1 =>
      (built.map fun built => built.map some) :: List.replicate calls (.ok (.ok none))

section Calls

variable (codec : Codec) (target : Target)

theorem driveAll_finished {producer : OneShot} (finished : producer.units = none)
    (calls : List Unit) : ((producers codec target).driveAll producer calls).1 =
      List.replicate calls.length (.ok (.ok none)) := by
  induction calls generalizing producer with
  | nil => rfl
  | cons call calls induction =>
      have step : (producers codec target).step producer call = (.ok (.ok none), producer) := by
        simp only [producers, OneShot.nextBatch, finished]
      rw [Component.driveAll_cons, step, induction finished]
      rfl

theorem driveAll_new (schema : Schema) (units : List DecodeUnit)
    (build : List DecodeUnit → Schema → Run (Except RpcError RecordBatch))
    (calls : List Unit) :
    ((producers codec target).driveAll (OneShot.new schema units build) calls).1 =
      once (build units schema) calls.length := by
  cases calls with
  | nil => rfl
  | cons call calls =>
      rw [Component.driveAll_cons]
      exact congrArg _ (driveAll_finished codec target rfl calls)

theorem producer_of_resolve {fs : FileSystem} {params : ProcessParams}
    {units : List DecodeUnit} (table : TableFunction)
    (resolved : Source.resolve codec fs params.arguments 0 = .ok units) :
    table.producer codec target fs params =
      .ok (OneShot.new params.outputSchema units (table.build target)) := by
  rw [TableFunction.producer, resolved]
  rfl

theorem producer_of_refused {fs : FileSystem} {params : ProcessParams} {error : RpcError}
    (table : TableFunction)
    (refused : Source.resolve codec fs params.arguments 0 = .error error) :
    table.producer codec target fs params = .error error := by
  rw [TableFunction.producer, refused]
  rfl

/-- Everything a producer ever replies, over any run that creates it. -/
theorem outputs_of_producer (state : ProducerState) (before after : List ProducerEvent)
    (table : TableFunction) (params : ProcessParams) {units : List DecodeUnit}
    (resolved : Source.resolve codec ((producers codec target).run state before).2.env
      params.arguments 0 = .ok units) :
    Reply.outputs ((producers codec target).run state before).2.components.length
        ((producers codec target).run state (before ++ .start (table, params) :: after)).1 =
      once (table.build target units params.outputSchema)
        (Event.drives ((producers codec target).run state before).2.components.length
          after).length := by
  have started : (producers codec target).start ((producers codec target).run state before).2.env
      (table, params) = .ok (OneShot.new params.outputSchema units (table.build target)) :=
    producer_of_resolve codec target table resolved
  rw [Component.outputs_of_start _ started after, driveAll_new]

end Calls

end VgiPprof.Worker
