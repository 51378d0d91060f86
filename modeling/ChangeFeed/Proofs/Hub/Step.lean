import ChangeFeed.Hub
import Mathlib.Data.Multiset.AddSub
import Mathlib.Logic.Relation

/-!
# Steps of a hub

Everything that is done to a hub is done in steps, each of which changes one thing and adds at most
one entry to the journal. A `Point` of a run is the hub at that point together with the messages
that a thread has in its hands and must release. `Step` lists what one step can do, and `Reaches`
composes steps of the permitted kinds. Invariants are shown for `Step` and carried along `Reaches`;
that an operation takes nothing but steps is shown beside its callers, in the modules on paths.
-/

namespace ChangeFeed

/-- The events that wait in the bridge; none if it is closed. -/
def Hub.resident (h : Hub) : List Event :=
  match h.bridge with
  | none => []
  | some b => b.events

/-- Noting something leaves the queue. -/
@[simp] lemma Hub.resident_record (entry : Entry) (h : Hub) :
    (h.record entry).resident = h.resident := rfl

/-- Noting something leaves what was given back. -/
@[simp] lemma Hub.handedBack_record (entry : Entry) (h : Hub) :
    (h.record entry).handedBack = h.handedBack := rfl

/-- The fault that waits in the slot of the bridge. -/
def Hub.fault? (h : Hub) : Option String :=
  h.bridge.bind Bridge.fault

/-- Noting something leaves the fault slot. -/
@[simp] lemma Hub.fault?_record (entry : Entry) (h : Hub) :
    (h.record entry).fault? = h.fault? := rfl

namespace Entry

/-- The event that was handed to the bridge, whether the bridge took it or not. -/
def offered? : Entry → Option Event
  | enqueued _ e _ => some e
  | _ => none

/-- The event that the bridge took. -/
def accepted? : Entry → Option Event
  | enqueued _ e true => some e
  | _ => none

/-- The event that was taken from the bridge. -/
def taken? : Entry → Option Event
  | dequeued e => some e
  | _ => none

/-- The message whose buffer was released. -/
def released? : Entry → Option Message
  | released m => some m
  | _ => none

/-- Whether the entry notes something that changes neither the bridge nor any buffer. -/
def isNote : Entry → Bool
  | enqueued _ _ _ | reported _ _ _ | dequeued _ | faultTaken _ | released _ => false
  | _ => true

end Entry

/-- The events that were handed to the bridge, in order. -/
def offered (journal : List Entry) : List Event := journal.filterMap Entry.offered?

/-- The events that the bridge took, in order. -/
def accepted (journal : List Entry) : List Event := journal.filterMap Entry.accepted?

/-- The events that were taken from the bridge, in order. -/
def taken (journal : List Entry) : List Event := journal.filterMap Entry.taken?

/-- The messages whose buffers were released, in order. -/
def released (journal : List Entry) : List Message := journal.filterMap Entry.released?

section

variable (as bs : List Entry) (entry : Entry)

/-- What was offered is offered first or later. -/
@[simp] lemma offered_append : offered (as ++ bs) = offered as ++ offered bs :=
  List.filterMap_append

/-- What was accepted is accepted first or later. -/
@[simp] lemma accepted_append : accepted (as ++ bs) = accepted as ++ accepted bs :=
  List.filterMap_append

/-- What was taken is taken first or later. -/
@[simp] lemma taken_append : taken (as ++ bs) = taken as ++ taken bs :=
  List.filterMap_append

/-- What was released is released first or later. -/
@[simp] lemma released_append : released (as ++ bs) = released as ++ released bs :=
  List.filterMap_append

/-- What one entry says was offered. -/
@[simp] lemma offered_singleton : offered [entry] = entry.offered?.toList := by
  cases h : entry.offered? <;> simp [offered, h]

/-- What one entry says was accepted. -/
@[simp] lemma accepted_singleton : accepted [entry] = entry.accepted?.toList := by
  cases h : entry.accepted? <;> simp [accepted, h]

/-- What one entry says was taken. -/
@[simp] lemma taken_singleton : taken [entry] = entry.taken?.toList := by
  cases h : entry.taken? <;> simp [taken, h]

/-- What one entry says was released. -/
@[simp] lemma released_singleton : released [entry] = entry.released?.toList := by
  cases h : entry.released? <;> simp [released, h]

end

/-- The messages of events, in no order. -/
def messages (events : List Event) : Multiset Message := events.map Event.message

/-- No events have no messages. -/
@[simp] lemma messages_nil : messages [] = 0 := rfl

/-- The messages of events are those of the first and of the others. -/
@[simp] lemma messages_cons (e : Event) (events : List Event) :
    messages (e :: events) = e.message ::ₘ messages events := rfl

/-- The messages of two lists of events are those of both. -/
@[simp] lemma messages_append (as bs : List Event) :
    messages (as ++ bs) = messages as + messages bs := by
  simp [messages]

/-- A point of a run: the hub, the messages that a thread has in its hands and has still to
release, and the messages that reached a feed otherwise than through its bridge. -/
structure Point where
  hub : Hub
  hands : Multiset Message
  given : Multiset Message

/-- What a step does. -/
inductive Act where
  | turn
  | setRunning (running : Bool)
  | setRedaction (level : RedactionLevel)
  | note (entry : Entry)
  | enqueue (origin : Origin) (event : Event)
  | report (origin : Origin) (fault : String)
  | take (event : Event)
  | takeFault (fault : String)
  | reclaim (index : Nat)
  | give (message : Message)
  | release (message : Message)
  | forget (message : Message)
  | opens
  | closes

/-- One step. An event that a closed bridge refuses goes back to the thread that it came from: a
producer keeps it, an acknowledgement has it in its hands. Only a buffer in somebody's hands can be
released. -/
inductive Step : Act → Point → Point → Prop where
  | turn {h s g batch rest} :
    h.schedule = batch :: rest →
    Step .turn ⟨h, s, g⟩ ⟨{ h with schedule := rest }, s, g⟩
  | setRunning {h s g running} :
    Step (.setRunning running) ⟨h, s, g⟩ ⟨h.setRunning running, s, g⟩
  | setRedaction {h s g level} :
    Step (.setRedaction level) ⟨h, s, g⟩ ⟨{ h with redaction := level }, s, g⟩
  | note {h s g entry} :
    entry.isNote →
    Step (.note entry) ⟨h, s, g⟩ ⟨h.record entry, s, g⟩
  | enqueue {h s g b origin e} :
    h.bridge = some b →
    Step (.enqueue origin e) ⟨h, s, g⟩
      ⟨{ h with bridge := some (b.enqueue e) }.record (.enqueued origin e true), s, g⟩
  | keep {h s g e} :
    h.bridge = none →
    Step (.enqueue .producer e) ⟨h, s, g⟩
      ⟨{ h.record (.enqueued .producer e false) with handedBack := h.handedBack ++ [e] }, s, g⟩
  | refuse {h s g e} :
    h.bridge = none →
    Step (.enqueue .hook e) ⟨h, s, g⟩ ⟨h.record (.enqueued .hook e false), e.message ::ₘ s, g⟩
  | report {h s g origin text} :
    Step (.report origin text) ⟨h, s, g⟩ ⟨(h.report origin text).2, s, g⟩
  | take {h s g b e rest} :
    h.bridge = some b →
    b.events = e :: rest →
    Step (.take e) ⟨h, s, g⟩
      ⟨{ h with bridge := some { b with events := rest } }.record (.dequeued e),
        e.message ::ₘ s, g⟩
  | takeFault {h s g b text} :
    h.bridge = some b →
    b.fault = some text →
    Step (.takeFault text) ⟨h, s, g⟩
      ⟨{ h with bridge := some { b with fault := none } }.record (.faultTaken text), s, g⟩
  | reclaim {h s g i e} :
    h.handedBack[i]? = some e →
    Step (.reclaim i) ⟨h, s, g⟩
      ⟨{ h with handedBack := h.handedBack.eraseIdx i }, e.message ::ₘ s, g⟩
  | give {h s g m} :
    Step (.give m) ⟨h, s, g⟩ ⟨h, m ::ₘ s, m ::ₘ g⟩
  | release {h s g m} :
    m.buffer.isSome →
    Step (.release m) ⟨h, m ::ₘ s, g⟩ ⟨h.record (.released m), s, g⟩
  | forget {h s g m} :
    m.buffer = none →
    Step (.forget m) ⟨h, m ::ₘ s, g⟩ ⟨h, s, g⟩
  | opens {h s g} :
    h.bridge = none →
    Step .opens ⟨h, s, g⟩ ⟨h.openBridge, s, g⟩
  | closes {h s g b} :
    h.bridge = some b →
    Step .closes ⟨h, s, g⟩
      ⟨{ h with bridge := none }, messages b.events + s, g⟩

/-- A report leaves the queue, and what was handed back, alone and adds one entry. -/
lemma Hub.report_frame (h : Hub) (origin : Origin) (text : String) :
    (h.report origin text).2.resident = h.resident ∧
      (∃ accepted, (h.report origin text).2.journal =
        h.journal ++ [.reported origin text accepted]) ∧
      (h.report origin text).2.handedBack = h.handedBack := by
  unfold report
  cases hb : h.bridge with
  | none => exact ⟨rfl, ⟨_, rfl⟩, rfl⟩
  | some b => exact ⟨by simp [resident, hb], ⟨_, rfl⟩, rfl⟩

/-- A step adds at most one entry to the journal. -/
lemma Step.journal {a p q} (st : Step a p q) :
    ∃ new, new.length ≤ 1 ∧ q.hub.journal = p.hub.journal ++ new := by
  cases st with
  | note _ => exact ⟨[_], by simp, rfl⟩
  | enqueue _ => exact ⟨[_], by simp, rfl⟩
  | keep _ => exact ⟨[_], by simp, rfl⟩
  | refuse _ => exact ⟨[_], by simp, rfl⟩
  | @report h s g origin text =>
    obtain ⟨-, ⟨_, hj⟩, -⟩ := h.report_frame origin text
    exact ⟨[_], by simp, hj⟩
  | take _ _ => exact ⟨[_], by simp, rfl⟩
  | takeFault _ _ => exact ⟨[_], by simp, rfl⟩
  | release _ => exact ⟨[_], by simp, rfl⟩
  | _ => exact ⟨[], by simp, by simp [Hub.setRunning, Hub.openBridge]⟩

/-- Whether the step may be taken while an event is attended to: it neither takes anything from the
bridge nor opens or closes it. -/
def Act.attends : Act → Bool
  | take _ | takeFault _ | give _ | opens | closes => false
  | _ => true

/-- Whether the step may be taken during a poll: it neither opens nor closes the bridge, and it
hands over nothing past it. -/
def Act.serves : Act → Bool
  | give _ | opens | closes => false
  | _ => true

/-- Every step. -/
def Act.any : Act → Bool :=
  fun _ => true

/-- A run of steps of the permitted kinds. -/
def Reaches (permitted : Act → Bool) : Point → Point → Prop :=
  Relation.ReflTransGen fun p q => ∃ a, permitted a ∧ Step a p q

namespace Reaches

variable {permitted wider : Act → Bool} {p q r : Point}

/-- A run without a step stays where it is. -/
lemma refl : Reaches permitted p p :=
  Relation.ReflTransGen.refl

/-- Runs are composed. -/
lemma trans (h : Reaches permitted p q) (k : Reaches permitted q r) : Reaches permitted p r :=
  Relation.ReflTransGen.trans h k

/-- A step is a run. -/
lemma step {a} (h : Step a p q) (ha : permitted a) : Reaches permitted p q :=
  Relation.ReflTransGen.single ⟨a, ha, h⟩

/-- A run is one of all wider kinds. -/
lemma mono (h : Reaches permitted p q) (hw : ∀ a, permitted a → wider a) : Reaches wider p q := by
  induction h with
  | refl => exact refl
  | tail _ st ih =>
    obtain ⟨a, ha, st⟩ := st
    exact ih.trans (step st (hw a ha))

/-- What every step of the permitted kinds preserves, a run preserves. -/
lemma preserves {motive : Point → Prop} (h : Reaches permitted p q)
    (hs : ∀ {a p q}, permitted a → Step a p q → motive p → motive q) (hp : motive p) :
    motive q := by
  induction h with
  | refl => exact hp
  | tail _ st ih =>
    obtain ⟨a, ha, st⟩ := st
    exact hs ha st ih

/-- A run passes through every journal between the first and the last. -/
lemma passes {journal : List Entry} (h : Reaches permitted p q)
    (hp : p.hub.journal <+: journal) (hq : journal <+: q.hub.journal) :
    ∃ r, Reaches permitted p r ∧ Reaches permitted r q ∧ r.hub.journal = journal := by
  induction h with
  | refl => exact ⟨p, refl, refl, (hp.eq_of_length_le hq.length_le)⟩
  | @tail r q h st ih =>
    obtain ⟨a, ha, st⟩ := st
    obtain ⟨new, hn, hj⟩ := st.journal
    -- the last step adds at most one entry, so the journal was reached before it or is reached now
    by_cases hl : journal.length ≤ r.hub.journal.length
    · have hr : journal <+: r.hub.journal :=
        List.prefix_of_prefix_length_le hq (hj ▸ List.prefix_append _ _) hl
      obtain ⟨t, ht, hk, rfl⟩ := ih hr
      exact ⟨t, ht, hk.trans (step st ha), rfl⟩
    · have hlen : q.hub.journal.length ≤ journal.length := by
        rw [hj, List.length_append]
        omega
      exact ⟨q, trans h (step st ha), refl, (hq.eq_of_length_le hlen).symm⟩

/-- Nothing is taken back from the journal. -/
lemma grows (h : Reaches permitted p q) : p.hub.journal <+: q.hub.journal := by
  refine h.preserves (motive := fun r => p.hub.journal <+: r.hub.journal) ?_ List.prefix_rfl
  intro a q r _ st hq
  obtain ⟨new, -, hj⟩ := st.journal
  exact hq.trans (hj ▸ List.prefix_append _ _)

/-- What a thread that attends to the hub does, one that serves it may do. -/
lemma serves (h : Reaches Act.attends p q) : Reaches Act.serves p q :=
  h.mono fun a ha => by cases a <;> simp_all [Act.attends, Act.serves]

/-- A run of permitted steps is a run. -/
lemma any (h : Reaches permitted p q) : Reaches Act.any p q :=
  h.mono fun _ _ => rfl

end Reaches

end ChangeFeed
