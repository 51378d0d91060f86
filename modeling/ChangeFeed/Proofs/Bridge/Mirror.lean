import ChangeFeed.Doubles
import ChangeFeed.Proofs.Bridge.Crossing
import ChangeFeed.Proofs.Hub.Trace

/-!
# First in, first out, until the owner is gone

At a hub the bridge is a queue, or it is gone; nobody counts the ends of its channels. A hub at
which the same is done mirrors a bridge in use: it takes and refuses the same events, and those that
the owner lets go of with the bridge, and no others, it releases, in order. Together with the order
in which events cross this is all that the bridge promises.
-/

namespace ChangeFeed

/-- Does at a hub, where nobody counts ends, what is done in a turn. -/
def Hub.follow (h : Hub) : Turn → Hub
  | .supply | .clone _ | .retire _ => h
  | .enqueue _ e => h.move (.enqueue e)
  | .offer _ text => h.move (.report text)
  | .receive => h.dequeue.2
  | .takeFault => h.takeFault.2
  | .drain => h.drain.2
  | .close => h.closeBridge

/-- Does what is done in turns. -/
def Hub.followAll : List Turn → Hub → Hub
  | [], h => h
  | t :: rest, h => followAll rest (h.follow t)

namespace Hub

variable {h : Hub}

/-- What is handed to an open bridge waits in it. -/
lemma move_enqueue_open {b : Bridge} (hb : h.bridge = some b) (e : Event) :
    h.move (.enqueue e) = { h with
      bridge := some (b.enqueue e)
      journal := h.journal ++ [.enqueued .producer e true] } := by
  obtain ⟨bridge, running, redaction, schedule, handedBack, journal⟩ := h
  cases hb
  rfl

/-- What is handed to a closed bridge goes back to the producer. -/
lemma move_enqueue_closed (hb : h.bridge = none) (e : Event) :
    h.move (.enqueue e) = { h with
      handedBack := h.handedBack ++ [e]
      journal := h.journal ++ [.enqueued .producer e false] } := by
  obtain ⟨bridge, running, redaction, schedule, handedBack, journal⟩ := h
  cases hb
  rfl

end Hub

namespace Crossing

/-- The hub has the bridge that the channels make up, and it noted what became of the events. -/
structure Mirrors (s : Crossing) (h : Hub) : Prop where
  bridge : h.bridge = s.wiring.bridge?
  schedule : h.schedule = []
  accepted : ChangeFeed.accepted h.journal = s.accepted.map Prod.snd
  handedBack : h.handedBack = s.refused.map Prod.snd
  taken : ChangeFeed.taken h.journal = s.taken
  released : ChangeFeed.released h.journal = buffered s.discarded

variable {s : Crossing} {h : Hub}

/-- At the outset the hub mirrors the bridge. -/
lemma mirrors_new (redaction : RedactionLevel) :
    new.Mirrors (Hub.idle redaction).openBridge :=
  ⟨rfl, rfl, rfl, rfl, rfl, rfl⟩

namespace Mirrors

/-- What is noted tells the events from then on. -/
lemma extend {u : Crossing} {k : Hub} {more : List Entry} (hm : s.Mirrors h)
    (hj : k.journal = h.journal ++ more) (hb : k.bridge = u.wiring.bridge?)
    (hs : k.schedule = h.schedule) (hh : k.handedBack = u.refused.map Prod.snd)
    (ha : s.accepted.map Prod.snd ++ ChangeFeed.accepted more = u.accepted.map Prod.snd)
    (ht : s.taken ++ ChangeFeed.taken more = u.taken)
    (hr : buffered s.discarded ++ ChangeFeed.released more = buffered u.discarded) :
    u.Mirrors k := by
  refine ⟨hb, hs.trans hm.schedule, ?_, hh, ?_, ?_⟩
  · rw [hj, accepted_append, hm.accepted, ha]
  · rw [hj, taken_append, hm.taken, ht]
  · rw [hj, released_append, hm.released, hr]

/-- Something else is noted, and the events stay as they are. -/
lemma note {entry : Entry} {k : Hub} {w : Wiring} (hm : s.Mirrors h)
    (hj : k.journal = h.journal ++ [entry]) (hb : k.bridge = w.bridge?)
    (hs : k.schedule = h.schedule) (hh : k.handedBack = h.handedBack)
    (ha : entry.accepted? = none) (ht : entry.taken? = none) (hr : entry.released? = none) :
    Mirrors { s with wiring := w } k := by
  refine hm.extend hj hb hs (hh.trans hm.handedBack) ?_ ?_ ?_
  · rw [accepted_singleton, ha, Option.toList_none, List.append_nil]
  · rw [taken_singleton, ht, Option.toList_none, List.append_nil]
  · rw [released_singleton, hr, Option.toList_none, List.append_nil]

/-- The bridge of a hub that mirrors an open one is open, with the same events and the
same fault. -/
lemma bridge_open (hm : s.Mirrors h) (hs : s.Orderly) (ho : s.owned = true) :
    h.bridge = some ⟨s.resident, s.wiring.faults.values.head?⟩ :=
  hm.bridge.trans (hs.held_open ho).bridge?_open

/-- The bridge of a hub that mirrors a closed one is gone. -/
lemma bridge_closed (hm : s.Mirrors h) (hs : s.Orderly) (ho : s.owned = false) :
    h.bridge = none :=
  hm.bridge.trans (hs.held_closed ho).bridge?_closed

/-- Handing over an event is mirrored. -/
lemma enqueue (hm : s.Mirrors h) (hs : s.Orderly) (p : Nat) (e : Event) :
    (s.enqueue p e).Mirrors (h.follow (.enqueue p e)) := by
  rw [Hub.follow]
  obtain ho | ho := Bool.eq_false_or_eq_true s.owned
  · have hh := (hs.held_open ho).withEvents (s.resident ++ [e])
    rw [hs.enqueue_eq ho, Hub.move_enqueue_open (hm.bridge_open hs ho)]
    refine hm.extend rfl hh.bridge?_open.symm rfl hm.handedBack ?_ (List.append_nil _)
      (List.append_nil _)
    rw [List.map_append]
    rfl
  · rw [hs.enqueue_refused ho, Hub.move_enqueue_closed (hm.bridge_closed hs ho)]
    refine hm.extend rfl hm.bridge rfl ?_ (List.append_nil _) (List.append_nil _)
      (List.append_nil _)
    rw [hm.handedBack, List.map_append]
    rfl

/-- Offering a fault is mirrored. -/
lemma offer (hm : s.Mirrors h) (hs : s.Orderly) (p : Nat) (text : String) :
    Mirrors { s with wiring := (s.wiring.offer text).2 } (h.follow (.offer p text)) := by
  simp only [Hub.follow, Hub.move, Hub.report]
  obtain ho | ho := Bool.eq_false_or_eq_true s.owned
  · rw [hm.bridge_open hs ho, (hs.held_open ho).offer_open]
    cases hv : s.wiring.faults.values with
    | nil =>
      have hh : (s.wiring.withFaults [text]).Held true s.producers.length :=
        (hs.held_open ho).withFaults (Nat.le_refl 1)
      exact hm.note rfl hh.bridge?_open.symm rfl rfl rfl rfl rfl
    | cons fault rest =>
      refine hm.note rfl ?_ rfl rfl rfl rfl rfl
      simp [(hs.held_open ho).bridge?_open, hv, Bridge.offer, resident]
  · rw [hm.bridge_closed hs ho, (hs.held_closed ho).offer_closed]
    exact hm.note rfl hm.bridge rfl rfl rfl rfl rfl

/-- Waiting for an event is mirrored. -/
lemma receive (hm : s.Mirrors h) (hs : s.Orderly) (ho : s.owned = true) :
    s.receive.Mirrors (h.follow .receive) := by
  simp only [Hub.follow, Hub.dequeue, Hub.yield_of_nil hm.schedule, hm.bridge_open hs ho,
    Crossing.receive]
  obtain ⟨hv, hd⟩ | ⟨e, rest, hv, hd⟩ := s.wiring.dequeue_cases
  · rw [hd, resident, hv]
    exact hm.note rfl hm.bridge rfl rfl rfl rfl rfl
  · have hh := (hs.held_open ho).withEvents rest
    rw [hd, resident, hv]
    exact hm.extend rfl hh.bridge?_open.symm rfl hm.handedBack (List.append_nil _) rfl
      (List.append_nil _)

/-- Taking a fault is mirrored. -/
lemma takeFault (hm : s.Mirrors h) (hs : s.Orderly) (ho : s.owned = true) :
    Mirrors { s with wiring := s.wiring.takeFault.2 } (h.follow .takeFault) := by
  simp only [Hub.follow, Hub.takeFault, Hub.yield_of_nil hm.schedule, hm.bridge_open hs ho]
  obtain ⟨hv, ht⟩ | ⟨text, rest, hv, ht⟩ := s.wiring.takeFault_cases
  · have hb : some (Bridge.mk s.resident none) = s.wiring.bridge? := by
      rw [(hs.held_open ho).bridge?_open, hv]
      rfl
    rw [ht, hv]
    exact { hm with bridge := hb }
  · have hl := hs.held.single
    rw [hv] at hl
    obtain rfl : rest = [] := List.length_eq_zero_iff.1 (Nat.le_zero.1 (Nat.le_of_succ_le_succ hl))
    have hh : (s.wiring.withFaults []).Held true s.producers.length :=
      (hs.held_open ho).withFaults (Nat.zero_le 1)
    rw [ht, hv]
    exact hm.note rfl hh.bridge?_open.symm rfl rfl rfl rfl rfl

/-- Draining is mirrored. -/
lemma drain (hm : s.Mirrors h) (hs : s.Orderly) (ho : s.owned = true) :
    s.drain.Mirrors (h.follow .drain) := by
  have hh := (hs.held_open ho).withEvents []
  obtain ⟨va, vt, vr⟩ := views_dequeued s.resident
  simp only [Hub.follow, Hub.drain, Hub.yield_of_nil hm.schedule, hm.bridge_open hs ho,
    Hub.recordDequeued_eq, Crossing.drain, s.wiring.drain_eq]
  refine hm.extend rfl hh.bridge?_open.symm rfl hm.handedBack ?_ ?_ ?_
  · exact (congrArg _ va).trans (List.append_nil _)
  · exact congrArg _ vt
  · exact (congrArg _ vr).trans (List.append_nil _)

/-- The hub releases what the owner lets go of with the bridge, in order. -/
lemma follow_close (hm : s.Mirrors h) (hs : s.Orderly) (ho : s.owned = true) :
    h.follow .close = { h with
      bridge := none
      journal := h.journal ++
        s.resident.flatMap fun e => e.message.parting (.droppedFailure h.redaction) } := by
  rw [Hub.follow, Hub.closeBridge, hm.bridge_open hs ho]
  exact Hub.dropAll_eq s.resident { h with bridge := none }

/-- Closing the bridge is mirrored. -/
lemma close (hm : s.Mirrors h) (hs : s.Orderly) (ho : s.owned = true) :
    s.close.Mirrors (h.follow .close) := by
  obtain ⟨vr, va, vt⟩ := views_partings (.droppedFailure h.redaction) s.resident
  obtain ⟨hd, -⟩ := hs.close_eq ho
  have hb : none = s.close.wiring.bridge? :=
    ((hs.close ho).held_closed rfl).bridge?_closed.symm
  rw [hm.follow_close hs ho]
  refine hm.extend rfl hb rfl hm.handedBack ?_ ?_ ?_
  · rw [va, List.append_nil]
    rfl
  · rw [vt, List.append_nil]
    rfl
  · rw [vr, hd, hs.discarded ho]
    rfl

/-- A hub at which the same is done goes on mirroring the bridge. -/
lemma turn {t : Turn} (hm : s.Mirrors h) (hs : s.Orderly) (hp : s.permits t) :
    (s.turn t).Mirrors (h.follow t) := by
  cases t with
  | supply | clone p | retire p => exact { hm with bridge := hm.bridge }
  | enqueue p e => exact hm.enqueue hs p e
  | offer p text => exact hm.offer hs p text
  | receive => exact hm.receive hs hp
  | takeFault => exact hm.takeFault hs hp
  | drain => exact hm.drain hs hp
  | close => exact hm.close hs hp

/-- Turns are mirrored. -/
lemma run {turns : List Turn} {u : Crossing} (hm : s.Mirrors h) (hs : s.Orderly)
    (hr : Run s turns u) : u.Mirrors (Hub.followAll turns h) := by
  induction hr generalizing h with
  | nil => exact hm
  | cons hp _ ih => exact ih (hm.turn hs hp) (hs.turn hp)

end Mirrors

/-- The events of one producer, in order. -/
def ofProducer (p : Nat) (marked : List (Nat × Event)) : List Event :=
  (marked.filter (·.1 = p)).map Prod.snd

/-- The events of a producer are those of the parts of a list. -/
lemma ofProducer_append (p : Nat) (as bs : List (Nat × Event)) :
    ofProducer p (as ++ bs) = ofProducer p as ++ ofProducer p bs := by
  rw [ofProducer, List.filter_append, List.map_append]
  rfl

/-- What a bridge promises at any point of its use, the hub showing the effects. -/
structure Promises (turns : List Turn) (s : Crossing) (h : Hub) : Prop where
  /-- What is handed over is accepted or refused, and nothing is accepted after a refusal. -/
  answered : s.accepted ++ s.refused = enqueues turns
  /-- Nothing is refused while the owner keeps the bridge. -/
  accepts : s.owned = true → s.refused = []
  /-- Nothing that was accepted is lost, doubled or overtaken. -/
  order : s.taken ++ s.resident ++ s.discarded = s.accepted.map Prod.snd
  kept : s.owned = true → s.discarded = []
  /-- Each producer's events come in the order in which it handed them over. -/
  own : ∀ p, ofProducer p s.accepted ++ ofProducer p s.refused = ofProducer p (enqueues turns) ∧
    (ofProducer p s.accepted).Sublist (s.taken ++ s.resident ++ s.discarded)
  counts : s.owned = true → s.taken.length ≤ s.accepted.length ∧
    s.wiring.size = s.accepted.length - s.taken.length ∧ (s.wiring.isEmpty ↔ s.wiring.size = 0)
  receives : s.receive.taken = s.taken ++ s.resident.take 1 ∧
    s.receive.resident = s.resident.drop 1
  drains : s.drain.taken = s.taken ++ s.resident ∧ s.drain.resident = []
  /-- The owner is never told that there is nobody left who could send. -/
  connected : s.owned = true → s.wiring.events.receive.1 ≠ .disconnected
  /-- All producers may be dropped, and the bridge goes on as before. -/
  retires : ∃ u, Run s (s.producers.map .retire) u ∧
    u = { s with wiring := u.wiring, producers := [] } ∧ u.resident = s.resident ∧
    u.wiring.bridge? = s.wiring.bridge?
  /-- Letting go of the bridge lets go of what waits, and the hub releases it in order. -/
  closes : s.owned = true → s.permits .close ∧ s.close.discarded = s.resident ∧
    s.close.resident = [] ∧
    h.follow .close = { h with
      bridge := none
      journal := h.journal ++
        s.resident.flatMap fun e => e.message.parting (.droppedFailure h.redaction) }
  /-- Once the owner is gone an event goes back to its producer, and nothing is released. -/
  refuses : s.owned = false → s.resident = [] ∧ ∀ p e,
    s.enqueue p e = { s with refused := s.refused ++ [(p, e)] } ∧
    h.follow (.enqueue p e) = { h with
      handedBack := h.handedBack ++ [e]
      journal := h.journal ++ [.enqueued .producer e false] }
  mirrored : s.Mirrors h

/-- The bridge tells how many events wait, and whether any does. -/
lemma Orderly.counts (hs : s.Orderly) (ho : s.owned = true) :
    s.taken.length ≤ s.accepted.length ∧
      s.wiring.size = s.accepted.length - s.taken.length ∧
      (s.wiring.isEmpty ↔ s.wiring.size = 0) := by
  have hl := congrArg List.length hs.order
  rw [hs.discarded ho, List.append_nil, List.length_append, List.length_map] at hl
  refine ⟨?_, ?_, ?_⟩
  · omega
  · rw [← hl, Nat.add_sub_cancel_left]
    rfl
  · rw [Wiring.isEmpty, Wiring.size, List.isEmpty_iff, List.length_eq_zero_iff]

/-- Whatever its owner and any number of producers do with a bridge, and whoever is next, the bridge
keeps its promises. -/
theorem crosses_in_order {turns : List Turn} {s : Crossing} (hr : Run new turns s)
    (redaction : RedactionLevel) :
    Promises turns s (Hub.followAll turns (Hub.idle redaction).openBridge) := by
  have hs := orderly_new.run hr
  have hm := (mirrors_new redaction).run orderly_new hr
  have ha : s.accepted ++ s.refused = enqueues turns := orderly_new.accepted_refused hr
  refine
    { answered := ha, accepts := hs.refused, order := hs.order, kept := hs.discarded
      own := ?_, counts := hs.counts, receives := s.receive_eq, drains := s.drain_eq
      connected := ?_, retires := hs.retire_all, closes := ?_, refuses := ?_, mirrored := hm }
  · intro p
    refine ⟨?_, ?_⟩
    · rw [← ofProducer_append, ha]
    · rw [hs.order]
      exact List.filter_sublist.map Prod.snd
  · intro ho
    exact (hs.held_open ho).events.receive_ne_disconnected
  · intro ho
    obtain ⟨hd, he⟩ := hs.close_eq ho
    exact ⟨ho, hd, he, hm.follow_close hs ho⟩
  · intro ho
    refine ⟨(hs.held_closed ho).events.values rfl, ?_⟩
    intro p e
    exact ⟨hs.enqueue_refused ho p e, Hub.move_enqueue_closed (hm.bridge_closed hs ho) e⟩

open Doubles

/-- Two producers, of which the first is dropped, hand over four events: one is taken, two go with
the bridge, and one comes too late. -/
def crowded : List Turn :=
  [.supply, .clone 0, .enqueue 0 (mutation 0 1), .enqueue 1 (failingMutation 0 2), .receive,
    .enqueue 0 (mutation 0 3), .retire 0, .offer 1 "too much", .close, .enqueue 1 (mutation 0 4)]

/-- In the crowded run the events that went with the bridge are those that were accepted after the
one that was taken, and both of them were released. -/
theorem crosses_in_order_crowded :
    ∃ s, Run new crowded s ∧ s.taken = [mutation 0 1] ∧ s.refused = [(1, mutation 0 4)] ∧
      s.discarded = [failingMutation 0 2, mutation 0 3] ∧
      released (Hub.followAll crowded (Hub.idle .none).openBridge).journal =
        [(failingMutation 0 2).message, (mutation 0 3).message] := by
  have hr : Run new crowded (crowded.foldl Crossing.turn new) := by
    repeat' constructor
  have hp := crosses_in_order hr .none
  refine ⟨_, hr, rfl, rfl, ?_, ?_⟩
  · exact (List.cons_inj_right (mutation 0 1)).1 hp.order
  · rw [hp.mirrored.released]
    rfl

end Crossing

end ChangeFeed
