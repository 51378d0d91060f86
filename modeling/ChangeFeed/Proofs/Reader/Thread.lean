import ChangeFeed.Proofs.Feed.Report
import ChangeFeed.Proofs.Hub.Signal

/-!
# What a reader does while it is waited for

A reader thread hands over events and faults, and tells of a panic if it ends in one; a reader that
does nothing makes no move. So neither warns of a failed release, and neither sets the running flag.
-/

namespace ChangeFeed

/-- No reader sets the running flag while it is waited for. -/
def RestrainedReaders (ρ : Type) [Reader ρ] : Prop :=
  ∀ (r : ρ) span slotFree, ∀ m ∈ (Reader.join r span slotFree).2.1, m.setsFlag = false

/-- Whether the move is one that a reader thread makes on its own. -/
def Move.isReading : Move → Bool
  | enqueue _ | report _ => true
  | log line => line = ReaderThread.panicLine
  | _ => false

variable {m : Move}

/-- What a reader thread does warns of no failed release. -/
lemma Move.isQuiet_of_isReading (hm : m.isReading) : m.isQuiet := by
  cases m with
  | log line =>
    obtain rfl : line = ReaderThread.panicLine := of_decide_eq_true hm
    rfl
  | _ => rfl

/-- What a reader thread does leaves the running flag alone. -/
lemma Move.setsFlag_of_isReading (hm : m.isReading) : m.setsFlag = false := by
  cases m with
  | setRunning running => cases hm
  | _ => rfl

namespace ReaderThread

/-- A program makes no other moves than a reader thread may make. -/
lemma isReading_advance (cancelled letGo slotFree : Bool) (program : List Action) :
    ∀ m ∈ (advance cancelled letGo slotFree program).1, m.isReading := by
  induction program generalizing slotFree with
  | nil => simp [advance]
  | cons action rest ih =>
    cases action with
    | enqueue e => simpa [advance, Move.isReading] using ih slotFree
    | report text =>
      cases slotFree with
      | true => simpa [advance, Move.isReading] using ih false
      | false => simp [advance]
    | awaitShutdown =>
      cases cancelled with
      | true => exact ih slotFree
      | false => simp [advance]
    | awaitRelease =>
      cases letGo with
      | true => exact ih slotFree
      | false => simp [advance]
    | panic => simp [advance]

/-- A thread makes no other moves than a reader thread may make. -/
lemma isReading_run (slotFree : Bool) (t : ReaderThread) :
    ∀ m ∈ (t.run slotFree).1, m.isReading := by
  unfold run
  cases t.exit with
  | none => exact isReading_advance t.cancelled t.letGo slotFree t.program
  | some exit => simp

/-- During a join the thread makes no other moves. -/
lemma isReading_join (t : ReaderThread) (span : Span) (slotFree : Bool) :
    ∀ m ∈ (t.join span slotFree).2.1, m.isReading := by
  have hr := isReading_run slotFree t
  unfold join
  split
  · simp
  · dsimp only
    split
    · exact hr
    · exact hr
    · intro m hm
      obtain hm | hm := List.mem_append.1 hm
      · exact hr m hm
      · obtain rfl := List.mem_singleton.1 hm
        rfl

end ReaderThread

open Doubles

/-- A stand-in makes no other moves either. -/
lemma isReading_standIn (r : StandIn) (span : Span) (slotFree : Bool) :
    ∀ m ∈ (Reader.join r span slotFree).2.1, m.isReading := by
  cases r with
  | inl r => exact nofun
  | inr t => exact t.isReading_join span slotFree

/-- Stand-ins do not log the warnings of a feed. -/
lemma quietReaders_standIn : QuietReaders StandIn :=
  fun r span slotFree m hm => Move.isQuiet_of_isReading (isReading_standIn r span slotFree m hm)

/-- Stand-ins do not set the running flag. -/
lemma restrainedReaders_standIn : RestrainedReaders StandIn :=
  fun r span slotFree m hm => Move.setsFlag_of_isReading (isReading_standIn r span slotFree m hm)

end ChangeFeed
