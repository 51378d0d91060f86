import ChangeFeed.Bridge
import ChangeFeed.Journal

/-!
# The hub

What the threads of a feed share: the bridge, until it is closed, the running flag, the redaction
level, and the journal of what happened. What other threads do is a schedule: a list of batches of
moves, one of which is made whenever a thread could be interrupted. A statement about every
schedule is a statement about every interleaving.

Each operation says what it does to the bridge, to the flag and to the journal; the journal only
ever grows.
-/

namespace ChangeFeed

/-- What another thread may do to a hub. -/
inductive Move where
  | enqueue (event : Event)
  | report (fault : String)
  | setRunning (running : Bool)
  | log (line : LogLine)
  /-- Lets go of an event that a closed bridge handed back. -/
  | letGo (index : Nat)

/-- The number of events that a move can bring about. -/
def Move.weight : Move → Nat
  | .enqueue e => e.weight
  | _ => 0

/-- What the threads of a feed share. -/
structure Hub where
  bridge : Option Bridge
  running : Bool
  redaction : RedactionLevel
  schedule : List (List Move)
  handedBack : List Event
  journal : List Entry

namespace Hub

/-- A hub without a bridge at which nothing happened yet. -/
def idle (redaction : RedactionLevel) : Hub :=
  { bridge := none, running := false, redaction, schedule := [], handedBack := [], journal := [] }

/-- Adds an entry to the journal. -/
def record (entry : Entry) (h : Hub) : Hub :=
  { h with journal := h.journal ++ [entry] }

/-- Noting something leaves the bridge. -/
@[simp] theorem bridge_record (entry : Entry) (h : Hub) : (h.record entry).bridge = h.bridge := rfl

/-- Noting something leaves the moves that others will make. -/
@[simp] theorem schedule_record (entry : Entry) (h : Hub) :
    (h.record entry).schedule = h.schedule := rfl

/-- What is noted comes last in the journal. -/
@[simp] theorem journal_record (entry : Entry) (h : Hub) :
    (h.record entry).journal = h.journal ++ [entry] := rfl

/-- Logs a line. -/
def log (line : LogLine) (h : Hub) : Hub :=
  h.record (.logged line)

/-- Sets or clears the running flag. -/
def setRunning (running : Bool) (h : Hub) : Hub :=
  { h with running }

/-- Opens a new bridge. -/
def openBridge (h : Hub) : Hub :=
  { h with bridge := some .empty }

/-- Whether a fault could be handed over, or refused, without waiting. -/
def slotFree (h : Hub) : Bool :=
  match h.bridge with
  | none => true
  | some b => b.slotFree

/-- Hands an event to the bridge; says whether the bridge took it. -/
def enqueue (origin : Origin) (e : Event) (h : Hub) : Bool × Hub :=
  match h.bridge with
  | none => (false, h.record (.enqueued origin e false))
  | some b => (true, { h with bridge := some (b.enqueue e) }.record (.enqueued origin e true))

/-- Hands a fault to the bridge; says whether the bridge took it. -/
def report (origin : Origin) (text : String) (h : Hub) : Bool × Hub :=
  match h.bridge with
  | none => (false, h.record (.reported origin text false))
  | some b =>
    let (accepted, b) := b.offer text
    (accepted, { h with bridge := some b }.record (.reported origin text accepted))

/-- Releases the buffer of a message, if it has one (`Message.release`). -/
def release (m : Message) (h : Hub) : Except ReleaseError Unit × Hub :=
  match m.buffer with
  | none => (.ok (), h)
  | some _ =>
    let h := h.record (.released m)
    match m.releaseError? with
    | none => (.ok (), h)
    | some e => (.error e, h)

/-- Releases the buffer of a message, if it has one, and logs a failure (`InFlight.drop`). -/
def releaseOrLog (line : RedactionLevel → Message → ReleaseError → LogLine) (m : Message)
    (h : Hub) : Hub :=
  match h.release m with
  | (.ok (), h) => h
  | (.error e, h) => h.log (line h.redaction m e)

/-- Lets go of a message (`Message.drop`). -/
def drop (m : Message) (h : Hub) : Hub :=
  h.releaseOrLog .droppedFailure m

/-- Lets go of the messages of events, in order. -/
def dropAll : List Event → Hub → Hub
  | [], h => h
  | e :: rest, h => dropAll rest (h.drop e.message)

/-- Closes the bridge; the events still in it are let go of in order. -/
def closeBridge (h : Hub) : Hub :=
  match h.bridge with
  | none => h
  | some b => dropAll b.events { h with bridge := none }

/-- Makes a move of another thread. An event that a closed bridge refuses stays with that thread,
until it is let go of. -/
def move (m : Move) (h : Hub) : Hub :=
  match m with
  | .enqueue e =>
    match h.enqueue .producer e with
    | (true, h) => h
    | (false, h) => { h with handedBack := h.handedBack ++ [e] }
  | .report text => (h.report .producer text).2
  | .setRunning running => h.setRunning running
  | .log line => h.log line
  | .letGo i =>
    match h.handedBack[i]? with
    | none => h
    | some e => { h with handedBack := h.handedBack.eraseIdx i }.drop e.message

/-- Makes moves in order. -/
def moves : List Move → Hub → Hub
  | [], h => h
  | m :: rest, h => moves rest (h.move m)

/-- Lets the other threads make the next batch of their moves. -/
def yield (h : Hub) : Hub :=
  match h.schedule with
  | [] => h
  | batch :: rest => moves batch { h with schedule := rest }

/-- Reads the running flag, before which other threads may act. -/
def readFlag (h : Hub) : Bool × Hub :=
  let h := h.yield
  (h.running, h.record (.flagRead h.running))

/-- Waits for the next event, before which other threads may act (`EventBridge.dequeue_timeout`). -/
def dequeue (h : Hub) : Option Event × Hub :=
  let h := h.yield
  match h.bridge.bind Bridge.dequeue with
  | none => (none, h.record .waited)
  | some (e, b) => (some e, { h with bridge := some b }.record (.dequeued e))

/-- Takes the fault that waits, if there is one; before that other threads may act
(`EventBridge.poll_fault`). -/
def takeFault (h : Hub) : Option String × Hub :=
  let h := h.yield
  match h.bridge with
  | none => (none, h)
  | some b =>
    let (fault, b) := b.takeFault
    let h := { h with bridge := some b }
    match fault with
    | none => (none, h)
    | some text => (some text, h.record (.faultTaken text))

/-- Notes that events were taken, in order. -/
def recordDequeued : List Event → Hub → Hub
  | [], h => h
  | e :: rest, h => recordDequeued rest (h.record (.dequeued e))

/-- Takes every event that waits; before that other threads may act (`EventBridge.drain`). -/
def drain (h : Hub) : List Event × Hub :=
  let h := h.yield
  match h.bridge with
  | none => ([], h)
  | some b =>
    let (events, b) := b.drain
    (events, recordDequeued events { h with bridge := some b })

/-- Runs one acknowledgement hook. An event that a closed bridge refuses is let go of. -/
def runHook (hook : Hook Event) (h : Hub) : Hub :=
  match hook with
  | .stop => h.setRunning false
  | .report text => (h.report .hook text).2
  | .enqueue e =>
    match h.enqueue .hook e with
    | (true, h) => h
    | (false, h) => h.drop e.message

/-- Runs acknowledgement hooks in order; before each other threads may act. -/
def runHooks : List (Hook Event) → Hub → Hub
  | [], h => h
  | hook :: rest, h => runHooks rest (h.yield.runHook hook)

/-- Acknowledges an event, before which other threads may act, and runs what that sets off
(`ChangeEvent.ack`). -/
def acknowledge (e : Event) (h : Hub) : Hub :=
  runHooks e.hooks (h.yield.record (.acknowledged e))

end Hub

end ChangeFeed
