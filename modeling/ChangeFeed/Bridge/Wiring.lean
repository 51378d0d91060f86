import ChangeFeed.Bridge
import ChangeFeed.Channel

/-!
# The wiring of a bridge

A bridge is made of two channels: one for events, which holds any number of them, and one for
faults, which holds one. The owner of the bridge keeps a sender and a receiver of either channel;
a producer has a sender of either. So the bridge takes events as long as its owner keeps it, and it
is never found to be without senders. `bridge?` is what the wiring comes to.
-/

namespace ChangeFeed

/-- The channels of a bridge (`EventBridge`). -/
structure Wiring where
  events : Channel Event
  faults : Channel String

namespace Wiring

/-- The channels of a new bridge, which has no producers (`EventBridge.new`). -/
def new : Wiring :=
  ⟨.new none, .new (some 1)⟩

/-- Hands out another producer, or clones one (`EventBridge.producer`). -/
def addProducer (w : Wiring) : Wiring :=
  ⟨w.events.addSender, w.faults.addSender⟩

/-- Lets go of a producer. -/
def dropProducer (w : Wiring) : Wiring :=
  ⟨w.events.dropSender, w.faults.dropSender⟩

/-- Hands an event to the bridge, which gives it back if it does not take it
(`BridgeProducer.enqueue`). -/
def enqueue (e : Event) (w : Wiring) : Except Event Unit × Wiring :=
  match w.events.send e with
  | (.accepted, events) => (.ok (), { w with events })
  | (.full e, events) | (.disconnected e, events) => (.error e, { w with events })

/-- Hands over a fault if the slot is free; gives it back otherwise
(`BridgeProducer.try_push_fault`). -/
def offer (text : String) (w : Wiring) : Except String Unit × Wiring :=
  match w.faults.send text with
  | (.accepted, faults) => (.ok (), { w with faults })
  | (.full text, faults) | (.disconnected text, faults) => (.error text, { w with faults })

/-- Hands over a fault as soon as the slot is free; while it is not there is no answer, and the
fault waits to be handed over (`BridgeProducer.push_fault`). A closed bridge gives it back. -/
def push (text : String) (w : Wiring) : Option (Except String Unit) × Wiring :=
  match w.faults.send text with
  | (.accepted, faults) => (some (.ok ()), { w with faults })
  | (.full _, faults) => (none, { w with faults })
  | (.disconnected text, faults) => (some (.error text), { w with faults })

/-- Waits for the next event (`EventBridge.dequeue_timeout`). -/
def dequeue (w : Wiring) : Option Event × Wiring :=
  match w.events.receive with
  | (.value e, events) => (some e, { w with events })
  | (.empty, events) | (.disconnected, events) => (none, { w with events })

/-- Takes the fault that waits (`EventBridge.poll_fault`). -/
def takeFault (w : Wiring) : Option String × Wiring :=
  match w.faults.receive with
  | (.value text, faults) => (some text, { w with faults })
  | (.empty, faults) | (.disconnected, faults) => (none, { w with faults })

/-- Takes event after event until none is left (`EventBridge.drain`). -/
def drain (w : Wiring) : List Event × Wiring :=
  let (drained, events) := w.events.receiveAll
  (drained, { w with events })

/-- The number of events that wait (`EventBridge.len`). -/
def size (w : Wiring) : Nat :=
  w.events.values.length

/-- Whether no event waits (`EventBridge.is_empty`). -/
def isEmpty (w : Wiring) : Bool :=
  w.events.values.isEmpty

/-- The owner lets go of the bridge, and so of its ends of the channels; gives the events that are
let go of with it. -/
def close (w : Wiring) : List Event × Wiring :=
  let (discarded, events) := w.events.dropSender.dropReceiver
  let (_, faults) := w.faults.dropSender.dropReceiver
  (discarded, ⟨events, faults⟩)

/-- The bridge that the channels make up, as long as it is open. -/
def bridge? (w : Wiring) : Option Bridge :=
  if w.events.receivers = 0 then none else some ⟨w.events.values, w.faults.values.head?⟩

end Wiring

end ChangeFeed
