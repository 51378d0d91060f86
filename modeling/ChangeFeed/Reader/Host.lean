import ChangeFeed.Channel
import ChangeFeed.Reader.Thread

/-!
# Hosts of reader threads

The host of a reader thread has a token that tells the thread to end, a channel over which nothing
is ever sent, and the handle of the thread. The thread has the only sender of the channel and lets
go of it when it comes to its end, however it does; so to wait at the channel is to wait for the
thread. A join takes the handle out while it waits, and puts it back only if its time is over first.
`Hosting` is a host with all that goes on beside it: any of the thread, the clock and those who have
the token may be next while a join waits.
-/

namespace ChangeFeed

/-- By what a thread is waited for until it is gone. -/
structure Handle where
  thread : String
deriving Repr, DecidableEq

/-- A reader thread as its owner has it: whether its token is cancelled, the channel that tells when
the thread has come to its end, and the handle of the thread unless it was taken out
(`ThreadedReader`). -/
structure ReaderHost where
  cancelled : Bool
  done : Channel Unit
  handle : Option Handle

namespace ReaderHost

/-- The host of a thread that was just started (`ThreadedReader.spawn`). -/
def spawn (name : String) : ReaderHost :=
  ⟨false, .new (some 0), some ⟨name⟩⟩

/-- Cancels the token, which all who have it share (`ThreadedReader.shutdown`). -/
def shutDown (r : ReaderHost) : ReaderHost :=
  { r with cancelled := true }

/-- Takes the handle out, if there is one. -/
def takeHandle (r : ReaderHost) : Option Handle × ReaderHost :=
  (r.handle, { r with handle := none })

/-- Puts the handle back. -/
def putHandle (handle : Handle) (r : ReaderHost) : ReaderHost :=
  { r with handle := some handle }

/-- Looks whether the thread has come to its end. -/
def receive (r : ReaderHost) : Received Unit × ReaderHost :=
  match r.done.receive with
  | (received, done) => (received, { r with done })

end ReaderHost

/-- Where a thread stands: it runs its program, it has come to the end of it and let go of what it
had, or it is gone. -/
inductive Course where
  | running
  | ending (how : Exit)
  | gone (how : Exit)
deriving Repr, DecidableEq

/-- How the thread came to its end, if it did. -/
def Course.exit? : Course → Option Exit
  | running => none
  | ending how | gone how => some how

/-- Where a join has got to: it waits at the channel and has so much time left, or it waits until
the thread is gone. -/
inductive Wait where
  | channel (handle : Handle) (left : Span)
  | thread (handle : Handle)
deriving Repr, DecidableEq

/-- What a join answered, and the lines that it logged. -/
structure JoinReport where
  status : JoinStatus
  lines : List LogLine
deriving Repr, DecidableEq

/-- What is logged of a thread that is gone. -/
def Exit.lines : Exit → List LogLine
  | returned => []
  | panicked => [ReaderThread.panicLine]

/-- A host in use: where its thread stands, the join that waits, if one does, what the joins before
it reported, and what was read from the token, in order. -/
structure Hosting where
  host : ReaderHost
  course : Course
  wait : Option Wait
  reports : List JoinReport
  reads : List Bool

namespace Hosting

/-- What may be done next: the owner asks the thread to end or joins it, somebody else who has the
token cancels or reads it, time passes, the join that waits looks again, and the thread comes to its
end or is gone. -/
inductive Deed where
  | shutDown
  | cancel
  | read
  | join (span : Span)
  | elapse (span : Span)
  | look
  | leave (how : Exit)
  | vanish
deriving Repr, DecidableEq

/-- The host of a thread that was just started. -/
def spawn (name : String) : Hosting :=
  { host := .spawn name, course := .running, wait := none, reports := [], reads := [] }

/-- The join is over. -/
def report (status : JoinStatus) (lines : List LogLine) (s : Hosting) : Hosting :=
  { s with wait := none, reports := s.reports ++ [⟨status, lines⟩] }

/-- Begins to wait for the thread (`ThreadedReader.join`). Where the handle is gone nothing is left
to wait for. -/
def join (span : Span) (s : Hosting) : Hosting :=
  match s.host.takeHandle with
  | (none, host) => { s with host }.report .finished []
  | (some handle, host) => { s with host, wait := some (.channel handle span) }

/-- Time passes for a join that waits at the channel. -/
def elapse (span : Span) (s : Hosting) : Hosting :=
  match s.wait with
  | some (.channel handle left) => { s with wait := some (.channel handle (left.minus span)) }
  | some (.thread _) | none => s

/-- The join that waits looks again (`ThreadedReader.join`). At the channel it finds out that the
thread has come to its end, or that its time is over; then the thread can be joined another time. -/
def look (s : Hosting) : Hosting :=
  match s.wait with
  | none => s
  | some (.channel handle left) =>
    match s.host.receive with
    | (.empty, host) =>
      if left.isZero then { s with host := host.putHandle handle }.report .stillRunning []
      else { s with host }
    | (.value _, host) | (.disconnected, host) =>
      { s with host, wait := some (.thread handle) }
  | some (.thread _) =>
    match s.course with
    | .gone how => s.report .finished how.lines
    | .running | .ending _ => s

/-- The thread comes to its end, and lets go of its sender. -/
def leave (how : Exit) (s : Hosting) : Hosting :=
  { s with course := .ending how, host := { s.host with done := s.host.done.dropSender } }

/-- The thread is gone. -/
def vanish (s : Hosting) : Hosting :=
  match s.course with
  | .ending how => { s with course := .gone how }
  | .running | .gone _ => s

/-- Does one thing. -/
def deed (s : Hosting) : Deed → Hosting
  | .shutDown | .cancel => { s with host := s.host.shutDown }
  | .read => { s with reads := s.reads ++ [s.host.cancelled] }
  | .join span => s.join span
  | .elapse span => s.elapse span
  | .look => s.look
  | .leave how => s.leave how
  | .vanish => s.vanish

/-- Who may do what: there is one join at a time, and a thread comes to its end once. -/
def permits (s : Hosting) : Deed → Bool
  | .join _ => s.wait.isNone
  | .leave _ => s.course = .running
  | .shutDown | .cancel | .read | .elapse _ | .look | .vanish => true

/-- What a thread does that has ended meanwhile, if it has. -/
def parting (s : Hosting) : Option Exit → List Deed
  | none => []
  | some how => if s.course = .running then [.leave how, .vanish] else []

/-- A join that takes its time, in the course of which the thread may end. -/
def call (span : Span) (exit : Option Exit) (s : Hosting) : List Deed :=
  .join span :: s.parting exit ++ [.elapse span, .look, .look]

/-- Does one thing after the other. -/
def perform (deeds : List Deed) (s : Hosting) : Hosting :=
  deeds.foldl deed s

end Hosting

end ChangeFeed
