import ChangeFeed.Text.Utf8

/-!
# Change events

A change event carries one message of the change stream, the epoch of the partition it was
streamed under, and the window that its acknowledgement opens. The message holds a buffer until
it is released, and only the first release has any effect. What an acknowledgement sets off is
part of the event: it may enqueue further events, report a fault or clear the running flag.
-/

namespace ChangeFeed

/-- How a document was changed (`MessageKind`). -/
inductive ChangeKind where
  | mutation
  | deletion
  | expiration
deriving Repr, DecidableEq, Inhabited

/-- The name of a kind (`MessageKind.as_str`). -/
def ChangeKind.name : ChangeKind → String
  | mutation => "mutation"
  | deletion => "deletion"
  | expiration => "expiration"

/-- Deletions and expirations both remove the document (`MessageKind.is_removal`). -/
def ChangeKind.isRemoval : ChangeKind → Bool
  | mutation => false
  | deletion | expiration => true

/-- The memory behind a message: the pool that it goes back to, and the failure that its release
ends in, if it does not succeed (`MessageBuffer`). -/
structure Buffer where
  pool : String
  failure : Option String
deriving Repr, DecidableEq

/-- A document change as the stream delivers it (`Message`). The buffer is gone once it was
released. -/
structure Message where
  kind : ChangeKind
  partition : UInt16
  seqno : UInt64
  revision : UInt64
  cas : UInt64
  key : Bytes
  content : Bytes
  buffer : Option Buffer
deriving Repr, DecidableEq, Inhabited

/-- Why a buffer could not be released (`ReleaseError`). -/
structure ReleaseError where
  cause : String
deriving Repr, DecidableEq

/-- The wording of the error. -/
def ReleaseError.message (e : ReleaseError) : String :=
  "failed to release message buffer: " ++ e.cause

namespace Message

/-- The number of octets that the message occupies on the wire (`Message.size`). -/
def size (m : Message) : Nat :=
  m.key.length + m.content.length

/-- Whether the buffer was given back already (`Message.is_released`). -/
def isReleased (m : Message) : Bool :=
  m.buffer.isNone

/-- The message without its buffer. -/
def withoutBuffer (m : Message) : Message :=
  { m with buffer := none }

/-- The error in which releasing the message ends; none if the buffer is gone already
(`Message.release`). -/
def releaseError? (m : Message) : Option ReleaseError :=
  m.buffer.bind fun b => b.failure.map ReleaseError.mk

/-- The document id as text. -/
def keyText (m : Message) : String :=
  Utf8.decodeLossy m.key

/-- A released message has nothing left to release. -/
theorem releaseError?_of_isReleased {m : Message} (h : m.isReleased) : m.releaseError? = none := by
  have : m.buffer = none := Option.isNone_iff_eq_none.1 h
  simp [releaseError?, this]

end Message

/-- What an acknowledgement sets off (`Acknowledge.ack`). -/
inductive Hook (ε : Type) where
  | stop
  | report (fault : String)
  | enqueue (event : ε)

/-- A change on its way from the stream reader to the host (`ChangeEvent`). -/
structure Event where
  message : Message
  epoch : UInt64
  window : String
  hooks : List (Hook Event)
deriving Inhabited

/-- A message together with what is needed to resume its stream, as source handlers see it
(`DocumentEvent`). -/
structure DocumentEvent where
  message : Message
  bucket : String
  epoch : UInt64
deriving Repr, DecidableEq

namespace Event

/-- The event as source handlers of a bucket see it (`DocumentEvent.new`). -/
def document (e : Event) (bucket : String) : DocumentEvent :=
  ⟨e.message, bucket, e.epoch⟩

mutual
/-- The number of events that an event can still bring about, itself included. -/
def weight : Event → Nat
  | ⟨_, _, _, hooks⟩ => weightHooks hooks + 1

/-- The number of events that acknowledgement hooks can bring about. -/
def weightHooks : List (Hook Event) → Nat
  | [] => 0
  | h :: rest => weightHook h + weightHooks rest

/-- The number of events that one acknowledgement hook can bring about. -/
def weightHook : Hook Event → Nat
  | .stop => 0
  | .report _ => 0
  | .enqueue e => weight e
end

/-- The number of events that a queue can bring about. -/
def weights : List Event → Nat
  | [] => 0
  | e :: rest => weight e + weights rest

/-- The weight of an event is that of its hooks and one more. -/
theorem weight_eq (e : Event) : e.weight = weightHooks e.hooks + 1 := by
  obtain ⟨m, p, w, hooks⟩ := e
  simp [weight]

/-- No event is without weight. -/
theorem weight_pos (e : Event) : 0 < e.weight := by
  rw [weight_eq]
  exact Nat.succ_pos _

/-- No events have no weight. -/
@[simp] theorem weights_nil : weights [] = 0 := rfl

/-- The weight of events is that of the first and of the others. -/
@[simp] theorem weights_cons (e : Event) (events : List Event) :
    weights (e :: events) = e.weight + weights events := rfl

/-- The weights of two lists of events add up. -/
@[simp] theorem weights_append (as bs : List Event) :
    weights (as ++ bs) = weights as + weights bs := by
  induction as with
  | nil => simp
  | cons e rest ih => simp [ih, Nat.add_assoc]

end Event

end ChangeFeed
