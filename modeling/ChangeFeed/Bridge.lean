import ChangeFeed.Event

/-!
# The bridge

Readers hand events to the poller through a bridge: a queue of events, which never refuses one
while the bridge is open, and a slot for one fault. Each operation is stated by what it does to the
queue and to the slot; `events_enqueue`, `dequeue_eq_some_iff` and `fault_offer` are its laws.
-/

namespace ChangeFeed

/-- The queued events, first in first out, and the fault that waits to be picked up
(`EventBridge`). -/
structure Bridge where
  events : List Event
  fault : Option String

namespace Bridge

/-- What a producer is told that the bridge, or its slot, takes nothing from (`BridgeClosed`). -/
def closedMessage : String := "event bridge is closed"

/-- A bridge that nothing was handed to yet (`EventBridge.new`). -/
def empty : Bridge := ⟨[], none⟩

/-- Puts an event at the end of the queue (`BridgeProducer.enqueue`). -/
def enqueue (e : Event) (b : Bridge) : Bridge :=
  { b with events := b.events ++ [e] }

/-- Takes the event at the front of the queue (`EventBridge.dequeue_timeout`). -/
def dequeue (b : Bridge) : Option (Event × Bridge) :=
  match b.events with
  | [] => none
  | e :: rest => some (e, { b with events := rest })

/-- Takes every event (`EventBridge.drain`). -/
def drain (b : Bridge) : List Event × Bridge :=
  (b.events, { b with events := [] })

/-- Whether the fault slot is free. -/
def slotFree (b : Bridge) : Bool :=
  b.fault.isNone

/-- Puts a fault into the slot if it is free; says whether it was
(`BridgeProducer.try_push_fault`). -/
def offer (text : String) (b : Bridge) : Bool × Bridge :=
  match b.fault with
  | none => (true, { b with fault := some text })
  | some _ => (false, b)

/-- Takes the fault out of the slot (`EventBridge.poll_fault`). -/
def takeFault (b : Bridge) : Option String × Bridge :=
  (b.fault, { b with fault := none })

/-- The number of queued events (`EventBridge.len`). -/
def size (b : Bridge) : Nat :=
  b.events.length

/-- Whether no event is queued (`EventBridge.is_empty`). -/
def isEmpty (b : Bridge) : Bool :=
  b.events.isEmpty

/-- Takes the fault that is picked up next as long as one waits for it, puts each of the texts into
the slot as soon as it is free, and gives the faults in the order in which they were picked up, one
for each text (`BridgeProducer.push_fault`). -/
def relay : List String → Bridge → List String × Bridge
  | [], b => ([], b)
  | text :: rest, b =>
    match b.fault with
    | none =>
      let (texts, b) := relay rest b
      (text :: texts, b)
    | some waiting =>
      let (texts, b) := relay rest { b with fault := some text }
      (waiting :: texts, b)

/-- What is handed over waits last. -/
@[simp] theorem events_enqueue (e : Event) (b : Bridge) :
    (b.enqueue e).events = b.events ++ [e] := rfl

/-- Handing over an event leaves the fault slot. -/
@[simp] theorem fault_enqueue (e : Event) (b : Bridge) : (b.enqueue e).fault = b.fault := rfl

/-- The event that is taken is the first that waits, and the others still wait. -/
theorem dequeue_eq_some_iff {b b' : Bridge} {e : Event} :
    b.dequeue = some (e, b') ↔ b.events = e :: b'.events ∧ b'.fault = b.fault := by
  obtain ⟨events, fault⟩ := b
  obtain ⟨events', fault'⟩ := b'
  cases events with
  | nil => simp [dequeue]
  | cons a rest =>
    simp only [dequeue, Option.some.injEq, Prod.mk.injEq, Bridge.mk.injEq, List.cons.injEq]
    grind

/-- Offering a fault leaves the events that wait. -/
@[simp] theorem events_offer (text : String) (b : Bridge) :
    (b.offer text).2.events = b.events := by
  unfold offer
  split <;> rfl

/-- A fault is accepted exactly when the slot is free, and a refused one changes nothing. -/
theorem fault_offer (text : String) (b : Bridge) :
    (b.offer text).1 = b.slotFree ∧ (b.offer text).2.fault = some (b.fault.getD text) := by
  obtain ⟨events, fault⟩ := b
  cases fault <;> simp [offer, slotFree]

end Bridge

end ChangeFeed
