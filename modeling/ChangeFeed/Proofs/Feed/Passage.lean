import ChangeFeed.Proofs.Batch.Acknowledge
import ChangeFeed.Proofs.Feed.Trace
import ChangeFeed.Proofs.Feed.World
import Mathlib.Algebra.Order.Group.Multiset
import Mathlib.Tactic.Abel

/-!
# Passages of events

An event leaves the bridge of a feed, or is given to the feed to be converted, together with the
assembler that processes it, if there is one: a stop and the letting go of a feed process nothing.
Such a passage acknowledges the event exactly if the assembler converts it. `Hub.Handles` says of
two hubs of a run which passages were made between them; it is shown for every call, and composed
along a history.
-/

namespace ChangeFeed

/-- The event that a closed bridge refused. -/
def Entry.refused? : Entry → Option Event
  | enqueued _ e false => some e
  | _ => none

/-- The events that closed bridges refused, in order. -/
def refused (journal : List Entry) : List Event := journal.filterMap Entry.refused?

/-- The events that were refused are those of the parts of a journal. -/
@[simp] lemma refused_append (as bs : List Entry) : refused (as ++ bs) = refused as ++ refused bs :=
  List.filterMap_append

/-- What is handed to a bridge is accepted or refused. -/
lemma coe_offered (journal : List Entry) :
    (offered journal : Multiset Event) = accepted journal + refused journal := by
  induction journal with
  | nil => rfl
  | cons x rest ih =>
    have ho : offered (x :: rest) = offered [x] ++ offered rest := offered_append [x] rest
    have ha : accepted (x :: rest) = accepted [x] ++ accepted rest := accepted_append [x] rest
    have hr : refused (x :: rest) = refused [x] ++ refused rest := refused_append [x] rest
    have hx : (offered [x] : Multiset Event) = accepted [x] + refused [x] := by
      cases x with
      | enqueued origin e taken => cases taken <;> rfl
      | _ => rfl
    rw [ho, ha, hr, ← Multiset.coe_add, ← Multiset.coe_add, ← Multiset.coe_add, hx, ih]
    exact add_add_add_comm (accepted [x] : Multiset Event) _ _ _

/-- An event that leaves the bridge of a feed, or is given to it to be converted, and the assembler
that processes it, if one does. -/
structure Passage where
  event : Event
  assembler : Option Assembler

/-- Whether the event is acknowledged. -/
def Passage.acknowledges (p : Passage) : Bool := p.assembler.any (·.Converts p.event)

/-- The events of the passages that acknowledge theirs. -/
def Passage.acknowledged (passages : List Passage) : List Event :=
  (passages.filter Passage.acknowledges).map Passage.event

/-- What is processed by one assembler is acknowledged if that assembler converts it. -/
lemma Passage.acknowledged_map (a : Assembler) (events : List Event) :
    Passage.acknowledged (events.map (⟨·, some a⟩)) = events.filter a.Converts := by
  rw [Passage.acknowledged, List.filter_map, List.map_map]
  simp [Function.comp_def, Passage.acknowledges]

/-- What is not processed is not acknowledged. -/
lemma Passage.acknowledged_map_none (events : List Event) :
    Passage.acknowledged (events.map (⟨·, none⟩)) = [] := by
  rw [Passage.acknowledged, List.filter_map]
  simp [Function.comp_def, Passage.acknowledges]

/-- The other events of passages. -/
def Passage.passedOver (passages : List Passage) : List Event :=
  (passages.filter (!·.acknowledges)).map Passage.event

/-- The event of a passage is acknowledged or passed over. -/
lemma Passage.coe_acknowledged_add (passages : List Passage) :
    (acknowledged passages : Multiset Event) + passedOver passages =
      passages.map Passage.event := by
  rw [acknowledged, passedOver, Multiset.coe_add, ← List.map_append, Multiset.coe_eq_coe]
  exact (List.filter_append_perm _ passages).map _

/-- The event of a passage that acknowledges nothing is passed over. -/
lemma Passage.mem_passedOver {passages : List Passage} {p : Passage} (hp : p ∈ passages)
    (ha : ¬ p.acknowledges) : p.event ∈ passedOver passages := by
  apply List.mem_map_of_mem
  rw [List.mem_filter]
  exact ⟨hp, by simpa using ha⟩

/-- The events of passages that were made of events. -/
lemma Passage.event_map (a : Option Assembler) (events : List Event) :
    (events.map (⟨·, a⟩)).map Passage.event = events := by
  simp [Function.comp_def]

/-- From one hub to the next some events were given to a feed, and the given passages were made. -/
structure Hub.Handles (given : Multiset Event) (passages : List Passage) (h k : Hub) : Prop where
  journal : k.journal = h.journal ++ h.since k
  queue : given + h.arrivals k = passages.map Passage.event + k.resident
  acknowledged : acknowledged (h.since k) = Passage.acknowledged passages
  followed : Followed (h.since k)

namespace Hub.Handles

variable {given more : Multiset Event} {passages others : List Passage} {h k l : Hub}

/-- What was noted in two parts was noted in the first and then in the second. -/
lemma since_eq (hk : k.journal = h.journal ++ h.since k) (hl : l.journal = k.journal ++ k.since l) :
    h.since l = h.since k ++ k.since l := by
  have heq : l.journal = h.journal ++ (h.since k ++ k.since l) := by
    rw [hl, hk, List.append_assoc]
  rw [since, heq, List.drop_left]

/-- Passages that were made in two parts were made as a whole. -/
lemma trans (hk : Handles given passages h k) (kl : Handles more others k l) :
    Handles (given + more) (passages ++ others) h l := by
  have hs := since_eq hk.journal kl.journal
  -- what waits in between is what the first part leaves and the second part finds
  refine ⟨?_, ?_, ?_, ?_⟩
  · rw [hs, ← List.append_assoc, ← hk.journal, kl.journal]
  · have hq := hk.queue
    have hr := kl.queue
    rw [arrivals, ← Multiset.coe_add] at hq hr ⊢
    rw [hs, accepted_append, List.map_append, ← Multiset.coe_add, ← Multiset.coe_add]
    calc given + more + (h.resident + (accepted (h.since k) + accepted (k.since l)))
        = (given + (h.resident + accepted (h.since k))) + (more + accepted (k.since l)) := by abel
      _ = passages.map Passage.event + (more + (k.resident + accepted (k.since l))) := by
        rw [hq]
        abel
      _ = passages.map Passage.event + others.map Passage.event + l.resident := by
        rw [hr]
        abel
  · rw [hs, acknowledged_append, hk.acknowledged, kl.acknowledged, Passage.acknowledged,
      Passage.acknowledged, Passage.acknowledged, List.filter_append, List.map_append]
  · rw [hs]
    exact hk.followed.append kl.followed

/-- Where nothing happens no passage is made. -/
lemma refl : Handles 0 [] h h := by
  have hs : h.since h = [] := List.drop_length
  refine ⟨?_, ?_, ?_, ?_⟩
  · rw [hs, List.append_nil]
  · rw [arrivals, hs]
    simp [accepted]
  · rw [hs]
    rfl
  · rw [hs]
    trivial

/-- Passages without an assembler are made where nothing is acknowledged. -/
lemma unprocessed {own : List Entry} (departed : List Event) (ha : Hub.Adds own h k)
    (ho : ChangeFeed.acknowledged own = []) (hq : h.arrivals k = departed ++ k.resident) :
    Handles 0 (departed.map (⟨·, none⟩)) h k := by
  have hn : ChangeFeed.acknowledged (h.since k) = [] :=
    (ha.filterMap_since fun _ _ hx => hx.acknowledged?).trans ho
  refine ⟨ha.woven.1, ?_, ?_, .of_acknowledged_eq_nil hn⟩
  · rw [hq, Passage.event_map, zero_add, Multiset.coe_add]
  · rw [hn, Passage.acknowledged_map_none]

/-- An event that is not processed when it is given to a feed. -/
lemma refusing (e : Event) (hk : Handles 0 [] h k) : Handles {e} [⟨e, none⟩] h k := by
  obtain ⟨hj, hq, ha, hf⟩ := hk
  refine ⟨hj, ?_, ha, hf⟩
  rw [zero_add] at hq
  rw [hq]
  show {e} + (0 + (k.resident : Multiset Event)) = {e} + k.resident
  rw [zero_add]

/-- A poll makes a passage for each event that it takes. -/
lemma poll (a : Assembler) (h : Hub) :
    Handles 0 ((taken (h.since (a.poll h).2)).map (⟨·, some a⟩)) h (a.poll h).2 := by
  obtain ⟨own, ht, ha⟩ := a.adds_poll h
  obtain ⟨events, hd⟩ := a.dequeues_poll h
  obtain ⟨-, htaken, hq⟩ := hd.spec
  have hown : taken (h.since (a.poll h).2) = taken own :=
    ha.filterMap_since fun _ _ hx => hx.taken?
  refine ⟨ha.woven.1, ?_, ?_, ha.woven.2.followed ht.blocks.followed⟩
  · rw [Passage.event_map, htaken, zero_add, Multiset.coe_add]
    exact congrArg _ hq
  · rw [Passage.acknowledged_map, hown, ← ht.blocks.acknowledged_eq]
    exact ha.filterMap_since fun _ _ hx => hx.acknowledged?

/-- An event that is converted passes from whoever has it to the assembler. -/
lemma process (a : Assembler) (e : Event) (h : Hub) :
    Handles {e} [⟨e, some a⟩] h (a.process e h).2 := by
  obtain ⟨own, hb, ha⟩ := a.adds_process e h
  obtain ⟨-, -, hq⟩ := (a.dequeues_process e h).spec
  refine ⟨ha.woven.1, ?_, ?_, ha.woven.2.followed hb.followed⟩
  · rw [hq]
    rfl
  · show _ = Passage.acknowledged ([e].map (⟨·, some a⟩))
    rw [Passage.acknowledged_map, ← hb.acknowledged_eq]
    exact ha.filterMap_since fun _ _ hx => hx.acknowledged?

end Hub.Handles

section

variable {own : List Entry}

/-- Joining a reader acknowledges nothing. -/
lemma JoinTrace.acknowledged_eq (ht : JoinTrace own) : acknowledged own = [] := by
  induction ht with
  | last hc =>
    rw [acknowledged_append, acknowledged_of_isClearing fun _ => hc.isClearing]
    rfl
  | @again cleared slice status rest hc _ ih =>
    rw [acknowledged_append, acknowledged_of_isClearing fun _ => hc.isClearing]
    exact ih

/-- A stop acknowledges nothing. -/
lemma StopTrace.acknowledged_eq {hasReader : Bool} (ht : StopTrace hasReader own) :
    acknowledged own = [] := by
  cases ht with
  | idle _ hc => exact acknowledged_of_isClearing fun _ => hc.isClearing
  | running _ he hc =>
    rw [acknowledged_append, acknowledged_of_isClearing fun _ => hc.isClearing, List.append_nil]
    cases he with
    | ended hj => exact hj.acknowledged_eq
    | @stubborn joins timeout hj =>
      rw [acknowledged_append]
      show acknowledged joins ++ [] = []
      rw [hj.acknowledged_eq]
      rfl

end

/-- Nothing waits in a closed bridge. -/
lemma Hub.resident_eq_nil {h : Hub} (hb : h.bridge = none) : h.resident = [] := by
  rw [resident, hb]

/-- Letting go of a bridge acknowledges nothing. -/
lemma Hub.handles_closeBridge (h : Hub) :
    Handles 0 ((h.arrivals h.closeBridge).map (⟨·, none⟩)) h h.closeBridge := by
  obtain ⟨late, ha⟩ := Feed.adds_letGo h
  have hr : h.closeBridge.resident = [] := resident_eq_nil h.bridge_closeBridge
  apply Handles.unprocessed _ ha
  · apply acknowledged_of_isClearing
    intro x hx
    obtain ⟨e, -, hx⟩ := List.mem_flatMap.1 hx
    exact Message.isClearing_of_mem_parting hx
  · rw [hr, List.append_nil]

/-- Moves of others make no passage. -/
lemma Hub.handles_moves (ms : List Move) (h : Hub) : Handles 0 [] h (moves ms h) :=
  .unprocessed [] (adds_moves ms h) rfl (dequeues_moves ms h).spec.2.2

namespace Feed

variable {ρ : Type} {f : Feed ρ}

open Hub (Handles)

/-- A start takes nothing from the bridge, which is a new one. -/
lemma arrivals_of_dequeues_openBridge {h k : Hub} (hb : h.bridge = none)
    (hd : h.openBridge.Dequeues [] k) : h.arrivals k = k.resident := by
  obtain ⟨-, -, hq⟩ := hd.spec
  have hr : h.resident = h.openBridge.resident := by
    simp [Hub.resident, hb, Hub.openBridge, Bridge.empty]
  rw [Hub.arrivals, hr]
  exact hq

/-- A start makes no passage. -/
lemma handles_start (f : Feed ρ) (properties : Properties)
    (hb : f.state = .new → f.hub.bridge = none) :
    Handles 0 [] f.hub (f.start properties).2.hub := by
  have ht := f.startTrace properties
  generalize (f.start properties).2 = g at ht
  generalize (f.start properties).1 = r at ht
  cases ht with
  | refused _ => exact .refl
  | unread _ ha hd => exact .unprocessed [] ha rfl hd.spec.2.2
  | undecoded _ ha hd => exact .unprocessed [] ha rfl hd.spec.2.2
  | unlaunched hn ha _ hd =>
    exact .unprocessed [] ha rfl (arrivals_of_dequeues_openBridge (hb hn) (hd (hb hn)))
  | launched hn ha _ hd =>
    exact .unprocessed [] ha rfl (arrivals_of_dequeues_openBridge (hb hn) (hd (hb hn)))

/-- A poll makes a passage of each event that it takes, to the assembler. -/
lemma handles_poll (f : Feed ρ) :
    Handles 0 ((taken (f.hub.since f.poll.2.hub)).map (⟨·, f.polling?⟩)) f.hub f.poll.2.hub := by
  rcases f.poll_cases with ⟨-, hp⟩ | ⟨a, ha, hp⟩
  · have hs : f.hub.since f.hub = [] := List.drop_length
    rw [hp, hs]
    exact .refl
  · rw [hp, ha]
    exact .poll a f.hub

/-- A conversion makes a passage of its event, to the assembler if there is one. -/
lemma handles_convert (f : Feed ρ) (e : Event) :
    Handles {e} [⟨e, f.assembler⟩] f.hub (f.convert e).2.hub := by
  rcases f.convert_cases e with ⟨ha, hc⟩ | ⟨a, ha, hc⟩
  · rw [hc, ha]
    have hn := acknowledged_parting (.droppedFailure f.hub.redaction) e.message
    exact .refusing e (.unprocessed [] (Hub.adds_drop e.message f.hub) hn
      (Hub.dequeues_drop e.message f.hub).spec.2.2)
  · rw [hc, ha]
    exact .process a e f.hub

/-- A stop makes a passage of each event that is left, to nobody. -/
lemma handles_stop [Reader ρ] (f : Feed ρ) :
    Handles 0 ((f.hub.arrivals f.stop.2.hub).map (⟨·, none⟩)) f.hub f.stop.2.hub := by
  obtain ⟨own, ht, ha⟩ := f.adds_stop
  have hr : f.stop.2.hub.resident = [] := Hub.resident_eq_nil f.parts_stop.2.2.2
  exact .unprocessed _ ha ht.acknowledged_eq (by rw [hr, List.append_nil])

end Feed

namespace World

variable {ρ : Type} {w : World ρ}

/-- The passages that a call makes. -/
def passing [Reader ρ] (w : World ρ) (c : Call) : List Passage :=
  match w.place, c with
  | .feed f, .poll => (taken (f.hub.since f.poll.2.hub)).map (⟨·, f.polling?⟩)
  | .feed f, .convert e => [⟨e, f.assembler⟩]
  | .feed f, .stop => (f.hub.arrivals f.stop.2.hub).map (⟨·, none⟩)
  | .feed f, .letGo => (f.hub.arrivals f.hub.closeBridge).map (⟨·, none⟩)
  | .bridge h, .letGo => (h.arrivals h.closeBridge).map (⟨·, none⟩)
  | _, _ => []

/-- The passages that calls make, in order. -/
def passages [Reader ρ] : List Call → World ρ → List Passage
  | [], _ => []
  | c :: rest, w => w.passing c ++ passages rest (w.step c)

/-- A call makes its passages. -/
lemma handles_step [Reader ρ] (hw : w.Unopened) (c : Call) :
    ∃ given : Multiset Event, (w.step c).converted = given + w.converted ∧
      Hub.Handles given (w.passing c) w.hub (w.step c).hub := by
  obtain ⟨place, converted⟩ := w
  -- only a conversion is given an event past the bridge
  cases place with
  | bridge h =>
    cases c with
    | others ms => exact ⟨0, (zero_add _).symm, Hub.handles_moves ms h⟩
    | letGo => exact ⟨0, (zero_add _).symm, h.handles_closeBridge⟩
    | _ => exact ⟨0, (zero_add _).symm, .refl⟩
  | feed f =>
    cases c with
    | start properties => exact ⟨0, (zero_add _).symm, f.handles_start properties (hw f rfl)⟩
    | poll => exact ⟨0, (zero_add _).symm, f.handles_poll⟩
    | convert e => exact ⟨{e}, rfl, f.handles_convert e⟩
    | stop => exact ⟨0, (zero_add _).symm, f.handles_stop⟩
    | signal =>
      have hd : f.hub.Dequeues [] (f.hub.setRunning false) := .same rfl rfl
      exact ⟨0, (zero_add _).symm,
        .unprocessed [] (Hub.adds_setRunning false f.hub) rfl hd.spec.2.2⟩
    | others ms => exact ⟨0, (zero_add _).symm, Hub.handles_moves ms f.hub⟩
    | letGo => exact ⟨0, (zero_add _).symm, f.hub.handles_closeBridge⟩

/-- Calls make their passages in order. -/
lemma handles_run [Reader ρ] (hw : w.Unopened) (calls : List Call) :
    ∃ given : Multiset Event, (w.run calls).converted = given + w.converted ∧
      Hub.Handles given (w.passages calls) w.hub (w.run calls).hub := by
  induction calls generalizing w with
  | nil => exact ⟨0, (zero_add _).symm, .refl⟩
  | cons c rest ih =>
    obtain ⟨given, hc, hs⟩ := handles_step hw c
    obtain ⟨more, hm, hr⟩ := ih (unopened_step hw c)
    refine ⟨given + more, ?_, hs.trans hr⟩
    rw [run, hm, hc]
    abel

end World

end ChangeFeed
