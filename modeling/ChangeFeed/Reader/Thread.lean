import ChangeFeed.Reader

/-!
# Readers on a thread of their own

A reader thread runs a program of its own until the program ends or the thread panics. It goes on
by itself as far as it can: until it has to hand over a fault while the slot is taken, or waits
for something that did not happen yet. Joining it tells whether it ended; after it was joined once
there is nothing left to wait for.
-/

namespace ChangeFeed

/-- What a reader thread does next. -/
inductive Action where
  | enqueue (event : Event)
  | report (fault : String)
  | awaitShutdown
  | awaitRelease
  | panic

/-- How a thread ended. -/
inductive Exit where
  | returned
  | panicked
deriving Repr, DecidableEq

/-- A reader thread: whether it was told to end, whether it was released from waiting, what it has
still to do, how it ended if it did, and whether it was joined (`ThreadedReader`). -/
structure ReaderThread where
  cancelled : Bool
  letGo : Bool
  program : List Action
  exit : Option Exit
  joined : Bool

namespace ReaderThread

/-- A thread that is to run a program. -/
def ofProgram (program : List Action) : ReaderThread :=
  ⟨false, false, program, none, false⟩

/-- The line that says that a thread was started. -/
def startLine (name : String) : LogLine :=
  .info "reader thread started" [("name", .text name)]

/-- The line that says that a thread panicked. -/
def panicLine : LogLine :=
  ⟨.error, "reader thread panicked", []⟩

/-- The moves that a program makes before it has to wait, what is left of it, and how it ended if
it did. -/
def advance (cancelled letGo slotFree : Bool) :
    List Action → List Move × List Action × Option Exit
  | [] => ([], [], some .returned)
  | .enqueue e :: rest =>
    let (moves, left) := advance cancelled letGo slotFree rest
    (.enqueue e :: moves, left)
  | .report text :: rest =>
    if slotFree then
      let (moves, left) := advance cancelled letGo false rest
      (.report text :: moves, left)
    else ([], .report text :: rest, none)
  | .awaitShutdown :: rest =>
    if cancelled then advance cancelled letGo slotFree rest
    else ([], .awaitShutdown :: rest, none)
  | .awaitRelease :: rest =>
    if letGo then advance cancelled letGo slotFree rest else ([], .awaitRelease :: rest, none)
  | .panic :: _ => ([], [], some .panicked)

/-- Lets the thread go on as far as it can. -/
def run (slotFree : Bool) (t : ReaderThread) : List Move × ReaderThread :=
  match t.exit with
  | some _ => ([], t)
  | none =>
    let (moves, program, exit) := advance t.cancelled t.letGo slotFree t.program
    (moves, { t with program, exit })

/-- Tells the thread to end (`ThreadedReader.shutdown`). -/
def cancel (t : ReaderThread) : ReaderThread :=
  { t with cancelled := true }

/-- Releases the thread from waiting. -/
def release (t : ReaderThread) : ReaderThread :=
  { t with letGo := true }

/-- Waits for the thread (`ThreadedReader.join`). The first join that finds it ended tells of a
panic; later ones find nothing left to wait for. -/
def join (t : ReaderThread) (_ : Span) (slotFree : Bool) : JoinStatus × List Move × ReaderThread :=
  if t.joined then (.finished, [], t)
  else
    let (moves, t) := t.run slotFree
    match t.exit with
    | none => (.stillRunning, moves, t)
    | some .returned => (.finished, moves, { t with joined := true })
    | some .panicked => (.finished, moves ++ [.log panicLine], { t with joined := true })

/-- A reader thread is told to end by cancelling it. -/
instance : Reader ReaderThread where
  shutDown := cancel
  join := join

end ReaderThread

end ChangeFeed
