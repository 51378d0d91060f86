import ChangeFeed.Reader.Context

/-!
# The journal

Everything that a run brings about or observes is an entry of its journal, in the order in which
it happened: what was handed to the bridge and taken from it, which collaborator was asked what,
which buffer was released, what was logged. Statements about a run are statements about its
journal.
-/

namespace ChangeFeed

/-- How serious a log line is. -/
inductive Severity where
  | debug
  | info
  | warn
  | error
deriving Repr, DecidableEq

/-- The name of a severity. -/
def Severity.name : Severity → String
  | debug => "debug"
  | info => "info"
  | warn => "warn"
  | error => "error"

/-- The value of a field of a log line. -/
inductive FieldValue where
  | number (n : Nat)
  | text (s : String)
deriving Repr, DecidableEq

/-- A log line. The fields of a debug line are not kept. -/
structure LogLine where
  severity : Severity
  message : String
  fields : List (String × FieldValue)
deriving Repr, DecidableEq

/-- Who hands something to the bridge. -/
inductive Origin where
  | producer
  | hook
deriving Repr, DecidableEq

/-- One thing that happened. -/
inductive Entry where
  /-- An event was handed to the bridge, which took it unless it was closed. -/
  | enqueued (by_ : Origin) (event : Event) (accepted : Bool)
  /-- A fault was handed to the bridge, which took it if its slot was free. -/
  | reported (by_ : Origin) (fault : String) (accepted : Bool)
  /-- An event was taken from the bridge. -/
  | dequeued (event : Event)
  /-- The bridge stayed empty for one wait. -/
  | waited
  /-- The fault was taken from its slot. -/
  | faultTaken (fault : String)
  /-- The running flag was read. -/
  | flagRead (running : Bool)
  /-- A filter was asked about a message. -/
  | filtered (filter : String) (message : Message)
  /-- A source handler was given an event and the default topic. -/
  | handled (handler : String) (document : DocumentEvent) (topic : String)
  /-- An event was acknowledged, its message being in the given state. -/
  | acknowledged (event : Event)
  /-- The buffer of a message was released; the message is given as it was before. -/
  | released (message : Message)
  /-- Saved positions were asked for. -/
  | consulted (partitions : List JsonMap)
  /-- A reader was to be started; says whether it was. -/
  | launched (context : ReaderContext) (succeeded : Bool)
  /-- A reader was told to end. -/
  | shutDown
  /-- A reader was waited for. -/
  | joined (span : Span) (status : JoinStatus)
  /-- A line was logged. -/
  | logged (line : LogLine)

namespace LogLine

/-- A line for the operator. -/
def info (message : String) (fields : List (String × FieldValue)) : LogLine :=
  ⟨.info, message, fields⟩

/-- The line that says why the buffer of a message could not be released, and which message it
was; `what` says on which occasion. -/
def releaseFailure (what : String) (level : RedactionLevel) (m : Message) (e : ReleaseError) :
    LogLine :=
  ⟨.warn, what,
    [("error", .text e.message), ("partition", .number m.partition.toNat),
      ("by_seqno", .number m.seqno.toNat), ("key", .text (level.redact m.keyText))]⟩

/-- The line for a message that is let go of without having been released. -/
def droppedFailure (level : RedactionLevel) (m : Message) (e : ReleaseError) : LogLine :=
  releaseFailure "failed to release buffer of dropped message" level m e

/-- The line for a message that is released because its feed stops. -/
def leftoverFailure (level : RedactionLevel) (m : Message) (e : ReleaseError) : LogLine :=
  releaseFailure "failed to release buffer" level m e

/-- The line for a message that is released because its conversion failed. -/
def abandonedFailure (level : RedactionLevel) (m : Message) (e : ReleaseError) : LogLine :=
  ⟨.warn, "failed to release buffer",
    [("error", .text e.message), ("key", .text (level.redact m.keyText))]⟩

end LogLine

end ChangeFeed
