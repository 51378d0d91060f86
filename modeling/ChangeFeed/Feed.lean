import ChangeFeed.Batch
import ChangeFeed.Config.Reader
import ChangeFeed.Offsets.Store
import ChangeFeed.Reader
import ChangeFeed.Registry

/-!
# Feeds

A feed streams one set of partitions of a bucket to its host. It is started once: the
configuration is read, the filter and the source handler are looked up, the saved positions are
read, and the reader is started, in that order, and the first failure ends the start. From then on
it is polled, until it is stopped. Stopping ends the reader, releases every event that still waits
without acknowledging any, and leaves nothing behind; it may be done in every state and any number
of times.

A name in parentheses, here and in the modules below, is the one by which the connector knows what
is defined. `launch`, `resume` and `select` are stages of one call.
-/

namespace ChangeFeed

/-- The version of the library (`SourceTask.version`). -/
def version : String := "0.4.0-nightly"

/-- How long stopping waits for the reader, if the host does not say (`READER_JOIN_TIMEOUT`). -/
def defaultJoinTimeout : Span := .ofMillis 10000

/-- How long one join lasts at most; between two of them the fault slot is cleared
(`JOIN_SLICE`). -/
def joinSlice : Span := .ofMillis 10

/-- What the host provides to a feed (`TaskContext`). -/
structure FeedContext (ρ : Type) where
  storage : Codec.Storage
  factory : ReaderFactory ρ
  registry : Registry
  joinTimeout : Span

/-- A feed and the hub that it shares with its producers (`SourceTask`). -/
structure Feed (ρ : Type) where
  context : FeedContext ρ
  state : FeedState
  assembler : Option Assembler
  reader : Option ρ
  hub : Hub

namespace Feed

variable {ρ : Type}

/-- A feed that was not started yet (`SourceTask.new`). -/
def new (context : FeedContext ρ) (hub : Hub) : Feed ρ :=
  { context, state := .new, assembler := none, reader := none, hub }

/-- Changes the hub of a feed. -/
def withHub (f : Feed ρ) (g : Hub → Hub) : Feed ρ :=
  { f with hub := g f.hub }

/-- The filter that a configuration names, if it names one. -/
def findFilter (registry : Registry) (config : FeedConfig) : Except ConfigError (Option Filter) :=
  match config.eventFilter with
  | none => .ok none
  | some name => (registry.filter name).map some

/-- The codec of a configuration, which keeps positions apart by connector if that is asked
for. -/
def codec (config : FeedConfig) : Codec :=
  ⟨config.bucket, if config.connectorNameInOffsets then some config.name else none⟩

/-- The line that says that a feed was started. -/
def startLine (config : FeedConfig) : LogLine :=
  .info "source task started"
    [("task", .text config.name), ("bucket", .text config.bucket), ("topic", .text config.topic),
      ("partitions", .number config.partitions.length)]

/-- The line before saved positions are decoded. -/
def rawOffsetsLine : LogLine := ⟨.debug, "raw source offsets", []⟩

/-- The line after saved positions were decoded. -/
def positionsLine : LogLine := ⟨.debug, "partition to saved seqno", []⟩

/-- The assembler of a configuration. -/
def assemblerOf (config : FeedConfig) (filter : Option Filter) (handler : Handler) : Assembler :=
  { pipeline := ⟨filter, handler, config.bucket, config.topic⟩
    codec := codec config
    limit := config.batchSizeMax }

/-- The last stage of a start: sets the running flag, opens the bridge and starts the
reader (`SourceTask.start`). Other threads may act before the flag is set and before the
reader is started. -/
def launch (f : Feed ρ) (context : ReaderContext) (assembler : Assembler) :
    Except FeedError Unit × Feed ρ :=
  let launch := f.context.factory context
  let hub := Hub.moves launch.moves (f.hub.yield.setRunning true).yield.openBridge
  let f := { f with assembler := some assembler, hub }
  match launch.outcome with
  | .error cause => (.error (.readerStart cause), f.withHub (·.record (.launched context false)))
  | .ok reader =>
    let hub := (f.hub.record (.launched context true)).log (startLine context.config)
    (.ok (), { f with reader := some reader, state := .running, hub })

/-- The stage in which saved positions are read, before which other threads may act
(`SourceTask.start`). -/
def resume (f : Feed ρ) (properties : Properties) (config : FeedConfig) (filter : Option Filter)
    (handler : Handler) : Except FeedError Unit × Feed ρ :=
  let asked := (codec config).sourcePartitions config.partitions
  let f := f.withHub fun h => (h.yield.record (.consulted asked)).log rawOffsetsLine
  match Codec.decodeOffsets (f.context.storage asked) with
  | .error e => (.error (.offsets e), f)
  | .ok positions =>
    (f.withHub (·.log positionsLine)).launch (.of config properties positions)
      (assemblerOf config filter handler)

/-- The stage in which the filter and the source handler are looked up (`SourceTask.start`). -/
def select (f : Feed ρ) (properties : Properties) (config : FeedConfig) :
    Except FeedError Unit × Feed ρ :=
  match findFilter f.context.registry config with
  | .error e => (.error (.config e), f)
  | .ok filter =>
    match f.context.registry.handler config.sourceHandler with
    | .error e => (.error (.config e), f)
    | .ok handler => f.resume properties config filter handler

/-- Starts a feed (`SourceTask.start`). If that fails the feed stays unusable. From the outset other
threads may act meanwhile, for they may have been given the means to tell the feed to stop. -/
def start (f : Feed ρ) (properties : Properties) : Except FeedError Unit × Feed ρ :=
  if f.state ≠ .new then (.error (.alreadyStarted f.state), f)
  else
    let f := { f with state := .starting }
    match FeedConfig.ofProperties properties with
    | .error e => (.error (.config e), f)
    | .ok config =>
      let f := f.withHub fun h => { h.yield with redaction := config.logRedaction }
      f.select properties config

/-- The assembler of a feed that may be polled. -/
def polling? (f : Feed ρ) : Option Assembler :=
  if f.state = .running ∧ f.hub.bridge.isSome then f.assembler else none

/-- Returns the next batch of records (`SourceTask.poll`). -/
def poll (f : Feed ρ) : Poll × Feed ρ :=
  match f.polling? with
  | none => (.done (.error (.notRunning f.state)), f)
  | some a =>
    let (result, hub) := a.poll f.hub
    (result, { f with hub })

/-- Returns the next batch of records, the feed being told to stop when there is nothing to wait
for, and in any case when the poll is over. -/
def pollUntilStopped (f : Feed ρ) : Poll × Feed ρ :=
  match f.polling? with
  | none => (.done (.error (.notRunning f.state)), f.withHub (·.setRunning false))
  | some a =>
    let (result, hub) := a.pollUntilStopped f.hub
    (result, { f with hub })

/-- Converts one event outside of a batch (`SourceTask.convert`). An event that no assembler is
there for is let go of. -/
def convert (f : Feed ρ) (e : Event) : Except FeedError (Option FeedRecord) × Feed ρ :=
  match f.assembler with
  | none => (.error (.notRunning f.state), f.withHub (·.drop e.message))
  | some a =>
    let (result, hub) := a.process e f.hub
    (result, { f with hub })

/-- Tells a feed to stop, from any thread (`StopHandle.signal`). -/
def signal (f : Feed ρ) : Feed ρ :=
  f.withHub (·.setRunning false)

/-- The line for a fault that nobody will see. -/
def discardLine (fault : String) : LogLine :=
  ⟨.warn, "discarding reader fault reported during shutdown", [("fault", .text fault)]⟩

/-- Takes the faults that wait until the slot is found free (`join_reader`). -/
def discardFaults (h : Hub) : Hub :=
  match h.takeFault with
  | (none, h) => h
  | (some fault, g) =>
    let g := g.log (discardLine fault)
    if _hs : g.schedule.length < h.schedule.length then discardFaults g else g
termination_by h.schedule.length

/-- Joins a reader, slice by slice, until it ended or the time that remains is over (`join_reader`).
Before each slice the fault slot is cleared, so that the reader cannot be kept by a full slot. Time
passes as the slices do; that the end of the wait is a time that a clock can tell is taken for
granted. -/
def joinReader [Reader ρ] (remaining : Span) (r : ρ) (h : Hub) : JoinStatus × ρ × Hub :=
  let h := discardFaults h
  let slice := remaining.min joinSlice
  let (status, moves, r) := Reader.join r slice h.slotFree
  let h := Hub.moves moves (h.record (.joined slice status))
  if _hr : status = .finished ∨ remaining.isZero then (status, r, h)
  else joinReader (remaining.minus slice) r h
termination_by remaining.nanoseconds
decreasing_by
  have hz : remaining.isZero = false := by
    cases hc : remaining.isZero
    · rfl
    · exact absurd (Or.inr hc) _hr
  have hpos : remaining.nanoseconds ≠ 0 := by
    simpa [Span.isZero] using hz
  by_cases hle : remaining.nanoseconds ≤ 10 * 1000000 <;>
    simp [Span.minus, Span.min, joinSlice, Span.ofMillis, hle] <;> omega

/-- The line for a reader that does not end. -/
def stubbornLine (timeout : Span) : LogLine :=
  ⟨.error, "reader thread is still alive after shutdown request", [("timeout", .text timeout.text)]⟩

/-- Ends the reader (`SourceTask.stop`). -/
def endReader [Reader ρ] (timeout : Span) (r : ρ) (h : Hub) : Hub :=
  match joinReader timeout (Reader.shutDown r) (h.record .shutDown) with
  | (.finished, _, h) => h
  | (.stillRunning, _, h) => h.log (stubbornLine timeout)

/-- Releases events in order without acknowledging them; gives the first failure (`release_all`). -/
def releaseAll : List Event → Hub → Option ReleaseError × Hub
  | [], h => (none, h)
  | e :: rest, h =>
    match h.yield.release e.message with
    | (.ok (), h) => releaseAll rest h
    | (.error cause, h) =>
      let (_, h) := releaseAll rest (h.log (.leftoverFailure h.redaction e.message cause))
      (some cause, h)

/-- Releases the events that still wait and closes the bridge, if there is one
(`SourceTask.stop`). -/
def closeBridge (h : Hub) : Option ReleaseError × Hub :=
  match h.bridge with
  | none => (none, h)
  | some _ =>
    let (events, h) := h.drain
    let h := h.log (.info "releasing unconsumed events" [("n", .number events.length)])
    let (failure, h) := releaseAll events h
    (failure, h.yield.closeBridge)

/-- Stops a feed (`SourceTask.stop`). If an event cannot be released the others still are, and the
first failure is reported. -/
def stop [Reader ρ] (f : Feed ρ) : Except FeedError Unit × Feed ρ :=
  let f := f.withHub (·.setRunning false)
  let f := if f.state = .stopped then f else { f with state := .stopping }
  let f :=
    match f.reader with
    | none => f
    | some r => { f with reader := none, hub := endReader f.context.joinTimeout r f.hub }
  let (failure, hub) := closeBridge f.hub
  let f := { f with assembler := none, state := .stopped, hub }
  match failure with
  | none => (.ok (), f)
  | some e => (.error (.release e), f)

/-- Lets go of a feed without stopping it: the events that still wait are let go of. -/
def release (f : Feed ρ) : Hub :=
  f.hub.closeBridge

end Feed

end ChangeFeed
