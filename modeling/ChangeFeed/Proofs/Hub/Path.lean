import ChangeFeed.Proofs.Hub.Step

/-!
# Hub operations as runs of steps

Each operation of a hub takes the hub from its argument to its result by steps. An operation that
releases a message starts with that message in hand and ends without it; every other one leaves the
hands as they are.
-/

namespace ChangeFeed.Hub

variable {h : Hub} {s g : Multiset Message}

/-- Without moves that are left, nobody else acts. -/
lemma yield_of_nil (hs : h.schedule = []) : h.yield = h := by
  rw [yield, hs]

/-- Noting something is a run. -/
lemma reaches_record {permitted} {entry : Entry} (hn : entry.isNote)
    (hp : permitted (.note entry)) :
    Reaches permitted ⟨h, s, g⟩ ⟨h.record entry, s, g⟩ :=
  .step (.note hn) hp

/-- Logging a line is a run. -/
lemma reaches_log (line : LogLine) : Reaches Act.attends ⟨h, s, g⟩ ⟨h.log line, s, g⟩ :=
  reaches_record rfl rfl

/-- Releasing a message takes it out of the hands. -/
lemma reaches_release (m : Message) :
    Reaches Act.attends ⟨h, m ::ₘ s, g⟩ ⟨(h.release m).2, s, g⟩ := by
  unfold release
  cases hb : m.buffer with
  | none => exact .step (.forget hb) rfl
  | some b =>
    have hr : Reaches Act.attends ⟨h, m ::ₘ s, g⟩ ⟨h.record (.released m), s, g⟩ :=
      .step (.release (by simp [hb])) rfl
    cases m.releaseError? <;> exact hr

/-- A release that is logged is a run that parts with the message. -/
lemma reaches_releaseOrLog (line : RedactionLevel → Message → ReleaseError → LogLine)
    (m : Message) : Reaches Act.attends ⟨h, m ::ₘ s, g⟩ ⟨h.releaseOrLog line m, s, g⟩ := by
  have hr := reaches_release (h := h) (s := s) (g := g) m
  unfold releaseOrLog
  split
  · rename_i k hk
    rw [hk] at hr
    exact hr
  · rename_i e k hk
    rw [hk] at hr
    exact hr.trans (reaches_log _)

/-- Dropping a message is a run that parts with it. -/
lemma reaches_drop (m : Message) : Reaches Act.attends ⟨h, m ::ₘ s, g⟩ ⟨h.drop m, s, g⟩ :=
  reaches_releaseOrLog _ m

/-- Letting go of events takes all of them out of the hands. -/
lemma reaches_dropAll (events : List Event) :
    Reaches Act.attends ⟨h, messages events + s, g⟩
      ⟨dropAll events h, s, g⟩ := by
  induction events generalizing h with
  | nil =>
    rw [messages_nil, Multiset.zero_add]
    exact .refl
  | cons e rest ih =>
    have hd : Reaches Act.attends
        ⟨h, e.message ::ₘ (messages rest + s), g⟩
        ⟨h.drop e.message, messages rest + s, g⟩ :=
      reaches_drop e.message
    rw [messages_cons, Multiset.cons_add]
    exact hd.trans ih

/-- What another thread does is a run. -/
lemma reaches_move (m : Move) : Reaches Act.attends ⟨h, s, g⟩ ⟨h.move m, s, g⟩ := by
  cases m with
  | enqueue e =>
    simp only [move, enqueue]
    cases hb : h.bridge with
    | none => exact .step (.keep hb) rfl
    | some b => exact .step (.enqueue hb) rfl
  | report text => exact .step .report rfl
  | setRunning running => exact .step .setRunning rfl
  | log line => exact reaches_log line
  | letGo i =>
    simp only [move]
    cases he : h.handedBack[i]? with
    | none => exact .refl
    | some e => exact (Reaches.step (.reclaim he) rfl).trans (reaches_drop e.message)

/-- The moves of others are a run. -/
lemma reaches_moves (ms : List Move) : Reaches Act.attends ⟨h, s, g⟩ ⟨moves ms h, s, g⟩ := by
  induction ms generalizing h with
  | nil => exact .refl
  | cons m rest ih => exact (reaches_move m).trans ih

/-- What others do meanwhile is a run. -/
lemma reaches_yield : Reaches Act.attends ⟨h, s, g⟩ ⟨h.yield, s, g⟩ := by
  unfold yield
  cases hs : h.schedule with
  | nil => exact .refl
  | cons batch rest => exact (Reaches.step (.turn hs) rfl).trans (reaches_moves batch)

/-- Reading the flag is a run. -/
lemma reaches_readFlag : Reaches Act.attends ⟨h, s, g⟩ ⟨h.readFlag.2, s, g⟩ :=
  reaches_yield.trans (reaches_record rfl rfl)

/-- An acknowledgement hook is a run: an event that is refused is let go of at once. -/
lemma reaches_runHook (hook : Hook Event) :
    Reaches Act.attends ⟨h, s, g⟩ ⟨h.runHook hook, s, g⟩ := by
  cases hook with
  | stop => exact .step .setRunning rfl
  | report text => exact .step .report rfl
  | enqueue e =>
    simp only [runHook, enqueue]
    cases hb : h.bridge with
    | none => exact (Reaches.step (.refuse hb) rfl).trans (reaches_drop e.message)
    | some b => exact .step (.enqueue hb) rfl

/-- Running hooks is a run. -/
lemma reaches_runHooks (hooks : List (Hook Event)) :
    Reaches Act.attends ⟨h, s, g⟩ ⟨runHooks hooks h, s, g⟩ := by
  induction hooks generalizing h with
  | nil => exact .refl
  | cons hook rest ih => exact (reaches_yield.trans (reaches_runHook hook)).trans ih

/-- Acknowledging an event is a run. -/
lemma reaches_acknowledge (e : Event) :
    Reaches Act.attends ⟨h, s, g⟩ ⟨h.acknowledge e, s, g⟩ :=
  (reaches_yield.trans (reaches_record rfl rfl)).trans (reaches_runHooks e.hooks)

/-- What taking an event does, once the other threads have acted. -/
lemma dequeue_eq_some {k e} (hd : h.dequeue = (some e, k)) :
    ∃ b rest, h.yield.bridge = some b ∧ b.events = e :: rest ∧
      k = { h.yield with bridge := some { b with events := rest } }.record (.dequeued e) := by
  simp only [dequeue] at hd
  split at hd
  · cases hd
  · rename_i e' b' hb
    obtain ⟨he, rfl⟩ := Prod.mk.inj hd
    obtain rfl := Option.some.inj he
    obtain ⟨b, hb1, hb2⟩ := Option.bind_eq_some_iff.1 hb
    obtain ⟨hev, hf⟩ := Bridge.dequeue_eq_some_iff.1 hb2
    refine ⟨b, b'.events, hb1, hev, ?_⟩
    rw [← hf]

/-- Taking an event puts its message into the hands. -/
lemma reaches_dequeue_some {k e} (hd : h.dequeue = (some e, k)) :
    Reaches Act.serves ⟨h, s, g⟩ ⟨k, e.message ::ₘ s, g⟩ := by
  obtain ⟨b, rest, hb, he, rfl⟩ := dequeue_eq_some hd
  exact reaches_yield.serves.trans (.step (.take hb he) rfl)

/-- Waiting in vain is a run. -/
lemma reaches_dequeue_none {k} (hd : h.dequeue = (none, k)) :
    Reaches Act.attends ⟨h, s, g⟩ ⟨k, s, g⟩ := by
  simp only [dequeue] at hd
  split at hd
  · obtain ⟨-, rfl⟩ := Prod.mk.inj hd
    exact reaches_yield.trans (reaches_record rfl rfl)
  · cases hd

/-- What looking for a fault does, once the other threads have acted: it finds none and changes
nothing, or it takes the one that waits. -/
lemma takeFault_cases (h : Hub) :
    (h.yield.fault? = none ∧ h.takeFault = (none, h.yield)) ∨
      ∃ b text, h.yield.bridge = some b ∧ b.fault = some text ∧
        h.takeFault = (some text,
          { h.yield with bridge := some { b with fault := none } }.record (.faultTaken text)) := by
  simp only [takeFault]
  cases hb : h.yield.bridge with
  | none => exact .inl ⟨by simp [fault?, hb], rfl⟩
  | some b =>
    obtain ⟨events, fault⟩ := b
    cases fault with
    | none => exact .inl ⟨by simp [fault?, hb], by simp [Bridge.takeFault, ← hb]⟩
    | some text => exact .inr ⟨_, text, rfl, rfl, rfl⟩

/-- Taking a fault, if there is one, is a run. -/
lemma reaches_takeFault : Reaches Act.serves ⟨h, s, g⟩ ⟨h.takeFault.2, s, g⟩ := by
  have hy := (reaches_yield (h := h) (s := s) (g := g)).serves
  rcases h.takeFault_cases with ⟨-, ht⟩ | ⟨b, text, hb, hf, ht⟩
  · rw [ht]
    exact hy
  · rw [ht]
    exact hy.trans (.step (.takeFault hb hf) rfl)

/-- Taking all events of a bridge, one after the other, puts their messages into the hands. -/
lemma reaches_recordDequeued {b : Bridge} (hb : h.bridge = some b) :
    Reaches Act.serves ⟨h, s, g⟩
      ⟨recordDequeued b.events { h with bridge := some { b with events := [] } },
        messages b.events + s, g⟩ := by
  obtain ⟨events, fault⟩ := b
  -- the bridge is emptied at once, but what happens is the same as taking one event after another
  induction events generalizing h s with
  | nil =>
    have heq : { h with bridge := some ⟨[], fault⟩ } = h := by simp [← hb]
    simp only [recordDequeued, heq, messages_nil, Multiset.zero_add]
    exact .refl
  | cons e rest ih =>
    have ht : Reaches Act.serves ⟨h, s, g⟩
        ⟨{ h with bridge := some ⟨rest, fault⟩ }.record (.dequeued e), e.message ::ₘ s, g⟩ :=
      .step (.take hb rfl) rfl
    have hi := ih (h := { h with bridge := some ⟨rest, fault⟩ }.record (.dequeued e))
      (s := e.message ::ₘ s) rfl
    rw [messages_cons, Multiset.cons_add, ← Multiset.add_cons]
    exact ht.trans hi

/-- Draining the bridge is a run in which the messages of its events come to be held. -/
lemma reaches_drain :
    Reaches Act.serves ⟨h, s, g⟩
      ⟨h.drain.2, messages h.drain.1 + s, g⟩ := by
  have hy := (reaches_yield (h := h) (s := s) (g := g)).serves
  simp only [drain]
  cases hb : h.yield.bridge with
  | none => exact (Multiset.zero_add s).symm ▸ hy
  | some b => exact hy.trans (reaches_recordDequeued hb)

/-- Closing the bridge releases what is in it. -/
lemma reaches_closeBridge : Reaches Act.any ⟨h, s, g⟩ ⟨h.closeBridge, s, g⟩ := by
  unfold closeBridge
  cases hb : h.bridge with
  | none => exact .refl
  | some b =>
    -- between the closing and the letting go the events are in the hands of whoever closes
    have hd := reaches_dropAll (h := { h with bridge := none }) (s := s) (g := g) b.events
    exact (Reaches.step (.closes hb) rfl).trans hd.any

end ChangeFeed.Hub
