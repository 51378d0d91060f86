import ChangeFeed.Handler
import ChangeFeed.Hub

/-!
# The pipeline

An event goes through the filter, if there is one, and then through the source handler. The
pipeline neither acknowledges nor releases it.
-/

namespace ChangeFeed

/-- Why an event could not be converted (`PipelineError`). -/
inductive PipelineError where
  | filter (cause : String)
  | handler (cause : String)
deriving Repr, DecidableEq

/-- The wording of each cause. -/
def PipelineError.message : PipelineError → String
  | filter cause => "event filter failed: " ++ cause
  | handler cause => "source handler failed: " ++ cause

/-- A record of an event, with the position of the event (`Converted`). -/
structure Converted where
  partition : UInt16
  position : Position
  record : OutputRecord
deriving Repr, DecidableEq

/-- A filter and a source handler, with the bucket and the default topic of a feed (`Pipeline`). -/
structure Pipeline where
  filter : Option Filter
  handler : Handler
  bucket : String
  topic : String

namespace Pipeline

/-- Whether the filter lets a message through. -/
def passes (p : Pipeline) (m : Message) : Except PipelineError Bool :=
  match p.filter with
  | none => .ok true
  | some f =>
    match f.passes m with
    | .ok b => .ok b
    | .error cause => .error (.filter cause)

/-- What the source handler makes of an event. -/
def convert (p : Pipeline) (e : Event) : Except PipelineError (Option Converted) :=
  match p.handler.handle (e.document p.bucket) p.topic with
  | .error cause => .error (.handler cause)
  | .ok record =>
    .ok (record.map fun r => ⟨e.message.partition, .of (e.document p.bucket), r⟩)

/-- What the pipeline makes of an event: nothing if it is filtered out or dropped. -/
def result (p : Pipeline) (e : Event) : Except PipelineError (Option Converted) :=
  match p.passes e.message with
  | .error cause => .error cause
  | .ok false => .ok none
  | .ok true => p.convert e

/-- Notes that the filter is asked, if there is one; before that other threads may act. -/
def recordFilter (p : Pipeline) (m : Message) (h : Hub) : Hub :=
  match p.filter with
  | none => h
  | some f => h.yield.record (.filtered f.name m)

/-- Runs an event through the filter and the source handler; before each other threads may act
(`Pipeline.process`). -/
def run (p : Pipeline) (e : Event) (h : Hub) : Except PipelineError (Option Converted) × Hub :=
  let h := p.recordFilter e.message h
  match p.passes e.message with
  | .error cause => (.error cause, h)
  | .ok false => (.ok none, h)
  | .ok true =>
    (p.convert e, h.yield.record (.handled p.handler.name (e.document p.bucket) p.topic))

/-- Running an event gives what the pipeline makes of it, whatever the hub. -/
theorem run_fst (p : Pipeline) (e : Event) (h : Hub) : (p.run e h).1 = p.result e := by
  unfold run result
  split <;> simp_all

end Pipeline

end ChangeFeed
