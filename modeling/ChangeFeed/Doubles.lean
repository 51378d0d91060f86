import ChangeFeed.Feed
import ChangeFeed.Reader.Thread

/-!
# Stand-ins for collaborators

Events, filters, source handlers and readers for trying out a feed: buffers whose releases are
counted, collaborators that fail or drop by sequence number, and readers that do nothing on their
own or follow a script.
-/

namespace ChangeFeed.Doubles

/-- The pool whose releases are counted. -/
def countedPool : String := "counted"

/-- The window whose acknowledgements are counted. -/
def countedWindow : String := "counted"

/-- The number of buffers that went back to a pool. -/
def releasedTo (pool : String) (journal : List Entry) : Nat :=
  journal.countP fun
    | .released m => (m.buffer.map Buffer.pool) == some pool
    | _ => false

/-- The number of acknowledgements of a window. -/
def acknowledgedIn (window : String) (journal : List Entry) : Nat :=
  journal.countP fun
    | .acknowledged e => e.window == window
    | _ => false

/-- A buffer whose release is counted. -/
def countedBuffer : Buffer := ⟨countedPool, none⟩

/-- A buffer whose release is counted but fails. -/
def failingBuffer : Buffer := ⟨countedPool, some "simulated release failure"⟩

/-- An event for a document named after its sequence number, under an epoch named after its
partition. -/
def eventWith (buffer : Buffer) (kind : ChangeKind) (partition : UInt16) (seqno : UInt64) :
    Event :=
  let number := String.ofList (Nat.toDigits 10 seqno.toNat)
  let content := if kind.isRemoval then "" else "\x7b\"seqno\":" ++ number ++ "\x7d"
  { message :=
      { kind, partition, seqno
        revision := 0
        cas := 0
        key := Utf8.encode ("doc-" ++ number)
        content := Utf8.encode content
        buffer := some buffer }
    epoch := 1000 + partition.toUInt64
    window := countedWindow
    hooks := [] }

/-- An event whose release and acknowledgement are counted. -/
def event (kind : ChangeKind) (partition : UInt16) (seqno : UInt64) : Event :=
  eventWith countedBuffer kind partition seqno

/-- A mutation whose release and acknowledgement are counted. -/
def mutation (partition : UInt16) (seqno : UInt64) : Event :=
  event .mutation partition seqno

/-- A mutation whose buffer cannot be released. -/
def failingMutation (partition : UInt16) (seqno : UInt64) : Event :=
  let failure :=
    "simulated release failure for seqno " ++ String.ofList (Nat.toDigits 10 seqno.toNat)
  eventWith ⟨countedPool, some failure⟩ .mutation partition seqno

/-- A filter that always fails. -/
def failingFilter : Filter := ⟨"failing", fun _ => .error "filter exploded"⟩

/-- A source handler that always fails. -/
def failingHandler : Handler := ⟨"failing", fun _ _ => .error "handler exploded"⟩

/-- A source handler that drops every event. -/
def dropAllHandler : Handler := ⟨"drop_all", fun _ _ => .ok none⟩

/-- Which sequence numbers a stand-in fails at, and which it drops. -/
structure Script where
  fails : List UInt64
  drops : List UInt64
deriving Repr, DecidableEq

/-- Fails and drops by sequence number, and passes the keys that start with the given octets. -/
def scriptedFilter (name : String) (script : Script) (start : Bytes) : Filter :=
  { name
    passes := fun m =>
      if m.seqno ∈ script.fails then
        .error ("filter failed at " ++ String.ofList (Nat.toDigits 10 m.seqno.toNat))
      else if m.seqno ∈ script.drops then .ok false
      else .ok (start.isPrefixOf m.key) }

/-- Fails and drops by sequence number, and makes the given record of every other event. -/
def scriptedHandler (name : String) (script : Script) (record : OutputRecord) : Handler :=
  { name
    handle := fun d _ =>
      if d.message.seqno ∈ script.fails then
        .error ("handler failed at " ++ String.ofList (Nat.toDigits 10 d.message.seqno.toNat))
      else if d.message.seqno ∈ script.drops then .ok none
      else .ok (some record) }

/-- The properties of a feed of partitions 0 to 3 of one bucket, with others in their place where
they are given. -/
def properties (overrides : Properties) : Properties :=
  overrides.foldl (fun d e => Dictionary.insert e.1 e.2 d) (Dictionary.ofList [
    ("name", "travel-source"),
    ("couchbase.bucket", "travel"),
    ("couchbase.topic", "travel-topic"),
    ("couchbase.partitions", "0,1,2,3")])

/-- A reader that does nothing, and ends when it is told to unless it is stubborn. -/
structure IdleReader where
  stubborn : Bool
deriving Repr, DecidableEq

/-- A reader that does nothing makes no moves when it is waited for. -/
instance : Reader IdleReader where
  shutDown r := r
  join r _ _ := (if r.stubborn then .stillRunning else .finished, [], r)

/-- Either of the readers that stand in for a real one. -/
abbrev StandIn := IdleReader ⊕ ReaderThread

/-- Starts readers that do nothing. -/
def idleFactory (stubborn : Bool) : ReaderFactory StandIn :=
  fun _ => ⟨[], .ok (.inl ⟨stubborn⟩)⟩

/-- Fails every start. -/
def failingFactory : ReaderFactory StandIn :=
  fun _ => ⟨[], .error "cluster unreachable"⟩

/-- A stream of mutations of the same size for every partition, followed by faults and, if wanted,
by a panic; else the reader waits until it is told to end. -/
structure StreamScript where
  perPartition : Nat
  faults : List String
  panics : Bool
deriving Repr, DecidableEq

/-- The mutations of one partition, after its saved position if there is one. -/
def streamOf (pool window : String) (positions : Positions) (count : Nat) (partition : UInt16) :
    List Event :=
  let (first, epoch) : UInt64 × UInt64 :=
    match Dictionary.find? partition positions with
    | none => (1, 0xCAFE)
    | some p => (p.seqno + 1, p.epoch.getD 0)
  (List.range count).map fun i =>
    let seqno := first + UInt64.ofNat i
    let key := "airline_" ++ partitionText partition ++ "_" ++
      String.ofList (Nat.toDigits 10 seqno.toNat)
    { message :=
        { kind := .mutation, partition, seqno
          revision := 0
          cas := 0
          key := Utf8.encode key
          content := Utf8.encode "\x7b\x7d"
          buffer := some ⟨pool, none⟩ }
      epoch, window
      hooks := [] }

/-- The program of a reader that follows a script. -/
def StreamScript.program (s : StreamScript) (pool window : String) (context : ReaderContext) :
    List Action :=
  let events := context.partitions.flatMap
    (streamOf pool window context.positions s.perPartition)
  events.map .enqueue ++ s.faults.map .report ++ [if s.panics then .panic else .awaitShutdown]

/-- Starts a reader thread that follows a script; what it can do at once is done when the start is
over. -/
def StreamScript.factory (s : StreamScript) (pool window : String) : ReaderFactory StandIn :=
  fun context =>
    let (moves, thread) := (ReaderThread.ofProgram (s.program pool window context)).run true
    ⟨.log (ReaderThread.startLine (context.taskName ++ "-reader")) :: moves, .ok (.inr thread)⟩

/-- Lets the reader of a feed go on as far as it can. -/
def advance (f : Feed StandIn) : Feed StandIn :=
  match f.reader with
  | some (.inr thread) =>
    let (moves, thread) := thread.run f.hub.slotFree
    { f with reader := some (.inr thread), hub := Hub.moves moves f.hub }
  | _ => f

end ChangeFeed.Doubles
