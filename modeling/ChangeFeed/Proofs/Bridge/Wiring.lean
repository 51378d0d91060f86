import ChangeFeed.Bridge.Wiring
import Mathlib.Tactic.Lemma

/-!
# Who holds the ends of a bridge

What a channel answers depends on how many ends of it are held. `Held` says who holds which: the
owner of a bridge, if it has not let go of it, a sender and a receiver of each channel, and every
producer a sender of each. So a bridge takes every event while its owner keeps it, whatever becomes
of the producers, and none afterwards; and its owner never finds it without senders.
-/

namespace ChangeFeed

/-- The owner, if it has not let go of the channel, holds one end of either sort, and every producer
a sender. Nothing waits once the owner is gone. -/
structure Channel.Held {α : Type} (c : Channel α) (owned : Bool) (producers : Nat) : Prop where
  senders : c.senders = producers + owned.toNat
  receivers : c.receivers = owned.toNat
  values : owned = false → c.values = []

namespace Channel.Held

variable {α : Type} {c : Channel α} {owned : Bool} {producers : Nat}

/-- Another producer holds another sender. -/
lemma addSender (hc : c.Held owned producers) : c.addSender.Held owned (producers + 1) := by
  refine ⟨?_, hc.receivers, hc.values⟩
  rw [Channel.addSender, hc.senders, Nat.add_right_comm]

/-- A producer that leaves drops its sender. -/
lemma dropSender (hc : c.Held owned (producers + 1)) : c.dropSender.Held owned producers := by
  refine ⟨?_, hc.receivers, hc.values⟩
  rw [Channel.dropSender, hc.senders, Nat.add_right_comm, Nat.add_sub_cancel]

/-- What waits in an open channel does not matter to who holds it. -/
lemma withValues (hc : c.Held true producers) (values : List α) :
    (c.withValues values).Held true producers :=
  ⟨hc.senders, hc.receivers, nofun⟩

/-- The owner's sender is dropped before its receiver, and with that what waits. -/
lemma close (hc : c.Held true producers) :
    c.dropSender.dropReceiver.1 = c.values ∧ c.dropSender.dropReceiver.2.Held false producers ∧
      c.dropSender.dropReceiver.2.values = [] ∧
      c.dropSender.dropReceiver.2.capacity = c.capacity := by
  have hr : ¬ 1 < c.dropSender.receivers := by simp [Channel.dropSender, hc.receivers]
  rw [dropReceiver, if_neg hr]
  refine ⟨rfl, ⟨?_, rfl, fun _ => rfl⟩, rfl, rfl⟩
  simp [Channel.dropSender, hc.senders]

/-- A value is accepted by an open channel unless that is full. -/
lemma send_open (hc : c.Held true producers) (v : α) :
    c.send v = if c.isFull then (.full v, c) else (.accepted, c.withValues (c.values ++ [v])) := by
  simp [send, hc.receivers]

/-- A value is handed back by a channel nobody receives from. -/
lemma send_closed (hc : c.Held false producers) (v : α) : c.send v = (.disconnected v, c) := by
  simp [send, hc.receivers]

/-- The owner is a sender itself, and so it is never told that there are none. -/
lemma receive_ne_disconnected (hc : c.Held true producers) : c.receive.1 ≠ .disconnected := by
  have hs : c.senders ≠ 0 := by simp [hc.senders]
  obtain ⟨-, hr⟩ | ⟨v, rest, -, hr⟩ := c.receive_cases <;> simp [hr, hs]

end Channel.Held

namespace Wiring

/-- The ends of both channels are held, of which the one takes any number of events and the other
one fault. -/
structure Held (w : Wiring) (owned : Bool) (producers : Nat) : Prop where
  events : w.events.Held owned producers
  faults : w.faults.Held owned producers
  unlimited : w.events.capacity = none
  slot : w.faults.capacity = some 1
  single : w.faults.values.length ≤ 1

variable {w : Wiring} {owned : Bool} {producers : Nat}

/-- At the outset the bridge holds its ends and there is no producer. -/
lemma held_new : new.Held true 0 :=
  ⟨⟨rfl, rfl, nofun⟩, ⟨rfl, rfl, nofun⟩, rfl, rfl, Nat.zero_le 1⟩

/-- The bridge with other events waiting. -/
def withEvents (w : Wiring) (values : List Event) : Wiring :=
  { w with events := w.events.withValues values }

/-- The bridge with another fault in its slot, or with none. -/
def withFaults (w : Wiring) (values : List String) : Wiring :=
  { w with faults := w.faults.withValues values }

/-- Waiting for an event gives the first that waits, and otherwise nothing. -/
lemma dequeue_cases (w : Wiring) :
    (w.events.values = [] ∧ w.dequeue = (none, w)) ∨
      ∃ e rest, w.events.values = e :: rest ∧ w.dequeue = (some e, w.withEvents rest) := by
  unfold dequeue
  obtain ⟨hv, hr⟩ | ⟨e, rest, hv, hr⟩ := w.events.receive_cases
  · refine .inl ⟨hv, ?_⟩
    rw [hr]
    by_cases hs : w.events.senders = 0 <;> simp [hs]
  · refine .inr ⟨e, rest, hv, ?_⟩
    rw [hr]
    rfl

/-- A fault is taken if one waits. -/
lemma takeFault_cases (w : Wiring) :
    (w.faults.values = [] ∧ w.takeFault = (none, w)) ∨
      ∃ text rest, w.faults.values = text :: rest ∧
        w.takeFault = (some text, w.withFaults rest) := by
  unfold takeFault
  obtain ⟨hv, hr⟩ | ⟨text, rest, hv, hr⟩ := w.faults.receive_cases
  · refine .inl ⟨hv, ?_⟩
    rw [hr]
    by_cases hs : w.faults.senders = 0 <;> simp [hs]
  · refine .inr ⟨text, rest, hv, ?_⟩
    rw [hr]
    rfl

/-- Draining takes all events that wait. -/
lemma drain_eq (w : Wiring) : w.drain = (w.events.values, w.withEvents []) := by
  rw [drain, Channel.receiveAll_eq, withEvents]

namespace Held

/-- Another producer holds another sender of each channel. -/
lemma addProducer (hw : w.Held owned producers) : w.addProducer.Held owned (producers + 1) :=
  ⟨hw.events.addSender, hw.faults.addSender, hw.unlimited, hw.slot, hw.single⟩

/-- A producer that leaves drops its sender of each channel. -/
lemma dropProducer (hw : w.Held owned (producers + 1)) : w.dropProducer.Held owned producers :=
  ⟨hw.events.dropSender, hw.faults.dropSender, hw.unlimited, hw.slot, hw.single⟩

/-- What events wait does not matter to who holds the channels. -/
lemma withEvents (hw : w.Held true producers) (values : List Event) :
    (w.withEvents values).Held true producers :=
  { hw with events := hw.events.withValues values }

/-- Which fault waits does not matter to who holds the channels. -/
lemma withFaults {values : List String} (hw : w.Held true producers) (hv : values.length ≤ 1) :
    (w.withFaults values).Held true producers :=
  { hw with faults := hw.faults.withValues values, single := hv }

/-- While its owner keeps it, a bridge takes whatever event it is handed. -/
lemma enqueue_open (hw : w.Held true producers) (e : Event) :
    w.enqueue e = (.ok (), w.withEvents (w.events.values ++ [e])) := by
  have hf : w.events.isFull = false := by rw [Channel.isFull, hw.unlimited]
  rw [enqueue, hw.events.send_open, hf]
  rfl

/-- Afterwards it hands every event back. -/
lemma enqueue_closed (hw : w.Held false producers) (e : Event) : w.enqueue e = (.error e, w) := by
  rw [enqueue, hw.events.send_closed]

/-- A bridge takes a fault if its slot is free. -/
lemma offer_open (hw : w.Held true producers) (text : String) :
    w.offer text = if w.faults.values = [] then (.ok (), w.withFaults [text])
      else (.error text, w) := by
  rw [offer, hw.faults.send_open, Channel.isFull, hw.slot, Wiring.withFaults]
  cases w.faults.values <;> simp

/-- A fault that is offered to a closed bridge is handed back. -/
lemma offer_closed (hw : w.Held false producers) (text : String) :
    w.offer text = (.error text, w) := by
  rw [offer, hw.faults.send_closed]

/-- A fault that is pushed waits where one that is offered is handed back. -/
lemma push_open (hw : w.Held true producers) (text : String) :
    w.push text = if w.faults.values = [] then (some (.ok ()), w.withFaults [text])
      else (none, w) := by
  rw [push, hw.faults.send_open, Channel.isFull, hw.slot, Wiring.withFaults]
  cases w.faults.values <;> simp

/-- A fault that is pushed to a closed bridge is handed back. -/
lemma push_closed (hw : w.Held false producers) (text : String) :
    w.push text = (some (.error text), w) := by
  rw [push, hw.faults.send_closed]

/-- With the bridge its owner lets go of the events that wait, and the producers stay. -/
lemma close (hw : w.Held true producers) :
    w.close.1 = w.events.values ∧ w.close.2.Held false producers ∧
      w.close.2.events.values = [] := by
  obtain ⟨hd, he, hv, hc⟩ := hw.events.close
  obtain ⟨-, hf, hfv, hfc⟩ := hw.faults.close
  refine ⟨hd, ⟨he, hf, hc.trans hw.unlimited, hfc.trans hw.slot, ?_⟩, hv⟩
  show w.faults.dropSender.dropReceiver.2.values.length ≤ 1
  rw [hfv]
  exact Nat.zero_le 1

/-- An open bridge is the events that wait and the fault in the slot. -/
lemma bridge?_open (hw : w.Held true producers) :
    w.bridge? = some ⟨w.events.values, w.faults.values.head?⟩ := by
  rw [bridge?, hw.events.receivers]
  rfl

/-- A closed bridge is none. -/
lemma bridge?_closed (hw : w.Held false producers) : w.bridge? = none := by
  rw [bridge?, hw.events.receivers]
  rfl

end Held

end Wiring

end ChangeFeed
