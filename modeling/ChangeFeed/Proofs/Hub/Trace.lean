import ChangeFeed.Proofs.Hub.Queue

/-!
# What a thread adds to the journal

The journal holds what all threads did, each entry where it happened. `Adds own h k` says that from
one hub to the next a thread added the entries `own`, in this order, and that whatever else was
added in between is the doing of other threads: events and faults that producers handed over, log
lines, and releases of messages that a closed bridge had given back. One lemma for each operation
says what it adds; what several operations add is put together by `Adds.trans`.
-/

namespace ChangeFeed

/-- A list into which entries of others are woven. -/
inductive Woven (others : Entry → Prop) : List Entry → List Entry → Prop where
  | nil : Woven others [] []
  | own {entry own all} :
    Woven others own all →
    Woven others (entry :: own) (entry :: all)
  | other {entry own all} :
    others entry →
    Woven others own all →
    Woven others own (entry :: all)

namespace Woven

variable {others wider : Entry → Prop} {own all own' all' : List Entry}

/-- What is woven one after the other is woven as a whole. -/
lemma append (h : Woven others own all) (k : Woven others own' all') :
    Woven others (own ++ own') (all ++ all') := by
  induction h with
  | nil => exact k
  | own _ ih => exact .own ih
  | other hx _ ih => exact .other hx ih

/-- A list into which fewer may weave is one into which more may. -/
lemma mono (h : Woven others own all) (hw : ∀ x, others x → wider x) : Woven wider own all := by
  induction h with
  | nil => exact .nil
  | own _ ih => exact .own ih
  | other hx _ ih => exact .other (hw _ hx) ih

/-- Nothing of others is woven in. -/
lemma refl (own : List Entry) : Woven others own own := by
  induction own with
  | nil => exact .nil
  | cons x rest ih => exact .own ih

/-- What only others added holds nothing of one's own. -/
lemma of_others (h : ∀ x ∈ all, others x) : Woven others [] all := by
  induction all with
  | nil => exact .nil
  | cons x rest ih =>
    apply Woven.other (h x (by simp))
    exact ih fun y hy => h y (List.mem_cons_of_mem _ hy)

/-- A view that does not show the entries of others shows one's own ones. -/
lemma filterMap_eq {β : Type} {view : Entry → Option β} (h : Woven others own all)
    (hv : ∀ x, others x → view x = none) : all.filterMap view = own.filterMap view := by
  induction h with
  | nil => rfl
  | @own x own all _ ih => rw [List.filterMap_cons, List.filterMap_cons, ih]
  | @other x own all hx _ ih => rw [List.filterMap_cons, hv x hx, ih]

/-- What a thread added itself is there. -/
lemma subset (h : Woven others own all) {x : Entry} (hx : x ∈ own) : x ∈ all := by
  induction h with
  | nil => exact hx
  | own _ ih =>
    rcases List.mem_cons.1 hx with rfl | hx
    · exact List.mem_cons_self
    · exact List.mem_cons_of_mem _ (ih hx)
  | other _ _ ih => exact List.mem_cons_of_mem _ (ih hx)

end Woven

/-- The event that a closed bridge gave back to the producer. -/
def Entry.kept? : Entry → Option Event
  | enqueued .producer e false => some e
  | _ => none

/-- The events that closed bridges gave back to producers. -/
def kept (journal : List Entry) : List Event := journal.filterMap Entry.kept?

/-- What was given back by two stretches of the journal is given back by both together. -/
@[simp] lemma kept_append (as bs : List Entry) : kept (as ++ bs) = kept as ++ kept bs :=
  List.filterMap_append

/-- What a thread may have added to the journal that holds the given events. -/
def Entry.ByHolder (held : List Event) : Entry → Prop
  | enqueued .producer _ _ | reported .producer _ _ | logged _ => True
  | released m => ∃ e ∈ held, e.message = m
  | _ => False

/-- What the holder of fewer events does, the holder of more may do. -/
lemma Entry.ByHolder.mono {held more : List Event} {entry : Entry} (h : entry.ByHolder held)
    (hm : ∀ e ∈ held, e ∈ more) : entry.ByHolder more := by
  cases entry with
  | released m =>
    obtain ⟨e, he, rfl⟩ := h
    exact ⟨e, hm e he, rfl⟩
  | enqueued origin e accepted => cases origin <;> exact h
  | reported origin text accepted => cases origin <;> exact h
  | _ => exact h

/-- From one hub to the other a thread added its own entries, and other threads the rest. -/
def Hub.Adds (own : List Entry) (h k : Hub) : Prop :=
  ∃ new, k.journal = h.journal ++ new ∧ (∀ e ∈ k.handedBack, e ∈ h.handedBack ++ kept new) ∧
    Woven (Entry.ByHolder (h.handedBack ++ kept new)) own new

namespace Hub.Adds

variable {h k l : Hub} {as bs own : List Entry}

/-- What a thread adds by two operations it adds by both together. -/
lemma trans (hk : Adds as h k) (kl : Adds bs k l) : Adds (as ++ bs) h l := by
  obtain ⟨new, hj, hb, hw⟩ := hk
  obtain ⟨more, lj, lb, lw⟩ := kl
  -- what is handed back by `k` was handed back at `h` or since, so both parts fit one bound
  have hnew : ∀ e ∈ h.handedBack ++ kept new, e ∈ h.handedBack ++ kept (new ++ more) := by
    intro e he
    rw [kept_append, ← List.append_assoc]
    exact List.mem_append_left _ he
  have hmore : ∀ e ∈ k.handedBack ++ kept more, e ∈ h.handedBack ++ kept (new ++ more) := by
    intro e he
    rcases List.mem_append.1 he with he | he
    · exact hnew e (hb e he)
    · rw [kept_append]
      exact List.mem_append_right _ (List.mem_append_right _ he)
  refine ⟨new ++ more, ?_, ?_, ?_⟩
  · rw [lj, hj, List.append_assoc]
  · exact fun e he => hmore e (lb e he)
  · apply Woven.append
    · exact hw.mono fun x hx => hx.mono hnew
    · exact lw.mono fun x hx => hx.mono hmore

/-- Where the journal and what was handed back stay, nothing is added. -/
lemma same (hj : k.journal = h.journal) (hb : k.handedBack = h.handedBack) : Adds [] h k := by
  refine ⟨[], by rw [hj, List.append_nil], ?_, .nil⟩
  intro e he
  rw [hb] at he
  exact List.mem_append_left _ he

/-- A hub that stays as it is has nothing added. -/
lemma refl : Adds [] h h :=
  same rfl rfl

/-- A thread adds what follows the journal if nobody else acts. -/
lemma entries (hj : k.journal = h.journal ++ own) (hb : k.handedBack = h.handedBack) :
    Adds own h k := by
  refine ⟨own, hj, ?_, .refl own⟩
  intro e he
  rw [hb] at he
  exact List.mem_append_left _ he

/-- What others added is not the thread's own. -/
lemma others (new : List Entry) (hj : k.journal = h.journal ++ new)
    (hb : ∀ e ∈ k.handedBack, e ∈ h.handedBack ++ kept new)
    (ho : ∀ x ∈ new, x.ByHolder (h.handedBack ++ kept new)) : Adds [] h k :=
  ⟨new, hj, hb, .of_others ho⟩

/-- What adds nothing may come afterwards. -/
lemma trans_nil (hk : Adds own h k) (kl : Adds [] k l) : Adds own h l := by
  simpa using hk.trans kl

/-- What adds nothing may come first. -/
lemma nil_trans (hk : Adds [] h k) (kl : Adds own k l) : Adds own h l := by
  simpa using hk.trans kl

end Hub.Adds

/-- The release of the buffer of a message, if it has one. -/
def Message.releases (m : Message) : List Entry :=
  if m.buffer.isSome then [.released m] else []

/-- The release of a message, with the line that tells of its failure if it fails. -/
def Message.parting (line : Message → ReleaseError → LogLine) (m : Message) : List Entry :=
  m.releases ++ (m.releaseError?.map fun e => .logged (line m e)).toList

namespace Hub

variable {h k : Hub}

/-- Noting something adds it. -/
lemma adds_record (entry : Entry) (h : Hub) : Adds [entry] h (h.record entry) :=
  .entries rfl rfl

/-- Logging a line adds it. -/
lemma adds_log (line : LogLine) (h : Hub) : Adds [.logged line] h (h.log line) :=
  adds_record _ h

/-- Setting or clearing the running flag adds nothing. -/
lemma adds_setRunning (running : Bool) (h : Hub) : Adds [] h (h.setRunning running) :=
  .same rfl rfl

/-- A release gives nothing back to anybody. -/
lemma handedBack_release (m : Message) (h : Hub) : (h.release m).2.handedBack = h.handedBack := by
  unfold release
  cases m.buffer with
  | none => rfl
  | some b => cases m.releaseError? <;> rfl

/-- A release notes the message if that has a buffer. -/
lemma journal_release (m : Message) (h : Hub) :
    (h.release m).2.journal = h.journal ++ m.releases := by
  unfold release Message.releases
  cases m.buffer with
  | none => simp
  | some b => cases m.releaseError? <;> rfl

/-- A release adds the message if that has a buffer. -/
lemma adds_release (m : Message) (h : Hub) : Adds m.releases h (h.release m).2 :=
  .entries (journal_release m h) (handedBack_release m h)

/-- Releasing a message and logging a failure. -/
lemma releaseOrLog_frame (line : RedactionLevel → Message → ReleaseError → LogLine) (m : Message)
    (h : Hub) :
    (h.releaseOrLog line m).journal = h.journal ++ m.parting (line h.redaction) ∧
      (h.releaseOrLog line m).handedBack = h.handedBack := by
  unfold releaseOrLog release Message.parting Message.releases
  cases hb : m.buffer with
  | none => simp [Message.releaseError?, hb]
  | some b => cases hr : m.releaseError? <;> simp [log, record]

/-- A release that is logged adds the message and, if it fails, the line. -/
lemma adds_releaseOrLog (line : RedactionLevel → Message → ReleaseError → LogLine) (m : Message)
    (h : Hub) : Adds (m.parting (line h.redaction)) h (h.releaseOrLog line m) := by
  obtain ⟨hj, hb⟩ := releaseOrLog_frame line m h
  exact .entries hj hb

/-- Dropping a message adds its release and, if that fails, the line. -/
lemma adds_drop (m : Message) (h : Hub) :
    Adds (m.parting (.droppedFailure h.redaction)) h (h.drop m) :=
  adds_releaseOrLog _ m h

/-- What other threads do is not the thread's own. -/
lemma adds_move (m : Move) (h : Hub) : Adds [] h (h.move m) := by
  cases m with
  | enqueue e =>
    simp only [move, enqueue]
    cases h.bridge with
    | none =>
      refine .others [.enqueued .producer e false] rfl ?_ ?_
      · exact fun x hx => hx
      · simp [Entry.ByHolder]
    | some b =>
      refine .others [.enqueued .producer e true] rfl ?_ ?_
      · exact fun x hx => List.mem_append_left _ hx
      · simp [Entry.ByHolder]
  | report text =>
    obtain ⟨-, ⟨accepted, hj⟩, hb⟩ := h.report_frame .producer text
    refine .others _ hj ?_ ?_
    · intro x hx
      rw [move, hb] at hx
      exact List.mem_append_left _ hx
    · simp [Entry.ByHolder]
  | setRunning running => exact adds_setRunning running h
  | log line =>
    refine .others [.logged line] rfl ?_ ?_
    · exact fun x hx => List.mem_append_left _ hx
    · simp [Entry.ByHolder]
  | letGo i =>
    simp only [move]
    cases he : h.handedBack[i]? with
    | none => exact .refl
    | some e =>
      obtain ⟨hj, hb⟩ := releaseOrLog_frame .droppedFailure e.message
        { h with handedBack := h.handedBack.eraseIdx i }
      show Adds [] h (releaseOrLog .droppedFailure e.message
        { h with handedBack := h.handedBack.eraseIdx i })
      -- the message released is that of an event that was handed back before
      refine .others _ hj ?_ ?_
      · intro x hx
        rw [hb] at hx
        exact List.mem_append_left _ (List.mem_of_mem_eraseIdx hx)
      · intro x hx
        rcases List.mem_append.1 hx with hx | hx
        · rw [Message.releases] at hx
          split at hx
          · obtain rfl := List.mem_singleton.1 hx
            exact ⟨e, List.mem_append_left _ (List.mem_of_getElem? he), rfl⟩
          · cases hx
        · obtain ⟨cause, -, rfl⟩ := Option.map_eq_some_iff.1 (Option.mem_toList.1 hx)
          trivial

/-- The moves of others add nothing of one's own. -/
lemma adds_moves (ms : List Move) (h : Hub) : Adds [] h (moves ms h) := by
  induction ms generalizing h with
  | nil => exact .refl
  | cons m rest ih => exact (adds_move m h).trans (ih (h.move m))

/-- Others that act meanwhile add nothing of one's own. -/
lemma adds_yield (h : Hub) : Adds [] h h.yield := by
  unfold yield
  cases h.schedule with
  | nil => exact .refl
  | cons batch rest => exact .nil_trans (.same rfl rfl) (adds_moves batch _)

/-- Reading the flag adds what was read. -/
lemma adds_readFlag (h : Hub) : Adds [.flagRead h.readFlag.1] h h.readFlag.2 :=
  .nil_trans (adds_yield h) (adds_record _ _)

/-- Taking an event adds that it was taken. -/
lemma adds_dequeue_some {e : Event} (hd : h.dequeue = (some e, k)) : Adds [.dequeued e] h k := by
  obtain ⟨b, rest, -, -, rfl⟩ := dequeue_eq_some hd
  exact .nil_trans (adds_yield h) (.entries rfl rfl)

/-- Waiting in vain adds that it was waited. -/
lemma adds_dequeue_none (hd : h.dequeue = (none, k)) : Adds [.waited] h k := by
  simp only [dequeue] at hd
  split at hd
  · obtain ⟨-, rfl⟩ := Prod.mk.inj hd
    exact .nil_trans (adds_yield h) (adds_record _ _)
  · cases hd

/-- Taking a fault adds that it was taken, if there was one. -/
lemma adds_takeFault (h : Hub) :
    Adds (h.takeFault.1.toList.map Entry.faultTaken) h h.takeFault.2 := by
  rcases h.takeFault_cases with ⟨-, ht⟩ | ⟨b, text, -, -, ht⟩
  · rw [ht]
    exact adds_yield h
  · rw [ht]
    exact .nil_trans (adds_yield h) (.entries rfl rfl)

end Hub

/-- What an acknowledgement hook adds to the journal, the bridge being open or not. An event that a
closed bridge refuses is let go of. -/
inductive Hook.Trace (isOpen : Bool) : Hook Event → List Entry → Prop where
  | stop : Trace isOpen .stop []
  | report {text accepted} : Trace isOpen (.report text) [.reported .hook text accepted]
  | accepted {e} :
    isOpen = true →
    Trace isOpen (.enqueue e) [.enqueued .hook e true]
  | refused {e level} :
    isOpen = false →
    Trace isOpen (.enqueue e)
      (.enqueued .hook e false :: e.message.parting (.droppedFailure level))

/-- What acknowledgement hooks add to the journal one after the other. -/
inductive Hook.Traces (isOpen : Bool) : List (Hook Event) → List Entry → Prop where
  | nil : Traces isOpen [] []
  | cons {hook own hooks more} :
    hook.Trace isOpen own →
    Traces isOpen hooks more →
    Traces isOpen (hook :: hooks) (own ++ more)

/-- Whether attending to an event can add the entry. -/
def Entry.isEffect : Entry → Bool
  | enqueued .hook _ _ | reported .hook _ _ | filtered _ _ | handled _ _ _ | acknowledged _
  | released _ | logged _ => true
  | _ => false

/-- Whether taking events out of their way and letting go of them can add the entry. -/
def Entry.isClearing : Entry → Bool
  | dequeued _ | faultTaken _ | released _ | logged _ => true
  | _ => false

/-- All that a release notes is the message. -/
lemma Message.eq_of_mem_releases {m : Message} {x : Entry} (hx : x ∈ m.releases) :
    x = .released m := by
  unfold releases at hx
  split at hx
  · exact List.mem_singleton.1 hx
  · cases hx

/-- What is noted when a message is parted with is its release or the line for it. -/
lemma Message.cases_parting {m : Message} {line : Message → ReleaseError → LogLine}
    {x : Entry} (hx : x ∈ m.parting line) : x = .released m ∨ ∃ e, x = .logged (line m e) := by
  rcases List.mem_append.1 hx with hx | hx
  · exact .inl (eq_of_mem_releases hx)
  · obtain ⟨cause, -, rfl⟩ := Option.map_eq_some_iff.1 (Option.mem_toList.1 hx)
    exact .inr ⟨cause, rfl⟩

/-- Parting with a message is an effect of processing it. -/
lemma Message.isEffect_of_mem_parting {m : Message} {line : Message → ReleaseError → LogLine}
    {x : Entry} (hx : x ∈ m.parting line) : x.isEffect := by
  obtain rfl | ⟨cause, rfl⟩ := cases_parting hx <;> rfl

/-- Parting with a message is what clearing up does. -/
lemma Message.isClearing_of_mem_parting {m : Message} {line : Message → ReleaseError → LogLine}
    {x : Entry} (hx : x ∈ m.parting line) : x.isClearing := by
  obtain rfl | ⟨cause, rfl⟩ := cases_parting hx <;> rfl

namespace Hook

variable {isOpen : Bool} {hook : Hook Event} {hooks : List (Hook Event)} {own : List Entry}
  {x : Entry}

/-- What a hook adds is an effect of processing an event. -/
lemma Trace.isEffect (ht : hook.Trace isOpen own) (hx : x ∈ own) : x.isEffect := by
  cases ht with
  | stop => cases hx
  | report =>
    obtain rfl := List.mem_singleton.1 hx
    rfl
  | accepted _ =>
    obtain rfl := List.mem_singleton.1 hx
    rfl
  | refused _ =>
    rcases List.mem_cons.1 hx with rfl | hx
    · rfl
    · exact Message.isEffect_of_mem_parting hx

/-- What hooks add are effects of processing an event. -/
lemma Traces.isEffect (ht : Traces isOpen hooks own) (hx : x ∈ own) : x.isEffect := by
  induction ht with
  | nil => cases hx
  | cons hown _ ih =>
    rcases List.mem_append.1 hx with hx | hx
    · exact hown.isEffect hx
    · exact ih hx

end Hook

namespace Hub

variable {h k : Hub}

/-- Others that act meanwhile neither open nor close the bridge. -/
lemma isSome_bridge_yield (h : Hub) : h.yield.bridge.isSome = h.bridge.isSome :=
  (reaches_yield (s := 0) (g := 0)).dequeues_nil.isSome_bridge

/-- A hook neither opens nor closes the bridge. -/
lemma isSome_bridge_runHook (hook : Hook Event) (h : Hub) :
    (h.runHook hook).bridge.isSome = h.bridge.isSome :=
  (reaches_runHook (s := 0) (g := 0) hook).dequeues_nil.isSome_bridge

/-- A hook adds its trace. -/
lemma adds_runHook (hook : Hook Event) (h : Hub) :
    ∃ own, hook.Trace h.bridge.isSome own ∧ Adds own h (h.runHook hook) := by
  cases hook with
  | stop => exact ⟨[], .stop, adds_setRunning false h⟩
  | report text =>
    obtain ⟨-, ⟨accepted, hj⟩, hb⟩ := h.report_frame .hook text
    exact ⟨_, .report, .entries hj hb⟩
  | enqueue e =>
    simp only [runHook, enqueue]
    cases hb : h.bridge with
    | none => exact ⟨_, .refused rfl, .trans (adds_record _ h) (adds_drop _ _)⟩
    | some b => exact ⟨_, .accepted rfl, .entries rfl rfl⟩

/-- Hooks add their traces in order. -/
lemma adds_runHooks (hooks : List (Hook Event)) (h : Hub) :
    ∃ own, Hook.Traces h.bridge.isSome hooks own ∧ Adds own h (runHooks hooks h) := by
  induction hooks generalizing h with
  | nil => exact ⟨[], .nil, .refl⟩
  | cons hook rest ih =>
    obtain ⟨own, ht, ha⟩ := adds_runHook hook h.yield
    obtain ⟨more, hm, hr⟩ := ih (h.yield.runHook hook)
    rw [isSome_bridge_runHook, isSome_bridge_yield] at hm
    rw [isSome_bridge_yield] at ht
    exact ⟨own ++ more, .cons ht hm, .nil_trans (adds_yield h) (ha.trans hr)⟩

/-- An acknowledgement is followed by its hooks, in order. -/
lemma adds_acknowledge (e : Event) (h : Hub) :
    ∃ hooks, Hook.Traces h.bridge.isSome e.hooks hooks ∧
      Adds (.acknowledged e :: hooks) h (h.acknowledge e) := by
  obtain ⟨hooks, ht, ha⟩ := adds_runHooks e.hooks (h.yield.record (.acknowledged e))
  rw [bridge_record, isSome_bridge_yield] at ht
  have hy : Adds [.acknowledged e] h (h.yield.record (.acknowledged e)) :=
    .nil_trans (adds_yield h) (adds_record _ _)
  exact ⟨hooks, ht, hy.trans ha⟩

/-- Noting that events were taken only adds to the journal. -/
lemma recordDequeued_eq (events : List Event) (h : Hub) :
    recordDequeued events h = { h with journal := h.journal ++ events.map Entry.dequeued } := by
  induction events generalizing h with
  | nil => simp [recordDequeued]
  | cons e rest ih => simp [recordDequeued, ih, record]

/-- Noting that events were taken adds that, in order. -/
lemma adds_recordDequeued (events : List Event) (h : Hub) :
    Adds (events.map Entry.dequeued) h (recordDequeued events h) := by
  rw [recordDequeued_eq]
  exact .entries rfl rfl

/-- Draining the bridge adds that its events were taken. -/
lemma adds_drain (h : Hub) : Adds (h.drain.1.map Entry.dequeued) h h.drain.2 := by
  simp only [drain]
  cases h.yield.bridge with
  | none => exact adds_yield h
  | some b =>
    have hs : Adds [] h.yield { h.yield with bridge := some { b with events := [] } } :=
      .same rfl rfl
    exact .nil_trans (.trans_nil (adds_yield h) hs) (adds_recordDequeued b.events _)

/-- Letting go of a message adds its parting, and nothing else changes. -/
lemma drop_eq (m : Message) (h : Hub) :
    h.drop m = { h with journal := h.journal ++ m.parting (.droppedFailure h.redaction) } := by
  unfold drop releaseOrLog release Message.parting Message.releases
  cases hb : m.buffer with
  | none => simp [Message.releaseError?, hb]
  | some b => cases hr : m.releaseError? <;> simp [log, record]

/-- Letting go of events only adds to the journal: for each its release and, if that fails, the
line. -/
lemma dropAll_eq (events : List Event) (h : Hub) :
    dropAll events h = { h with
      journal := h.journal ++
        events.flatMap fun e => e.message.parting (.droppedFailure h.redaction) } := by
  induction events generalizing h with
  | nil => simp [dropAll]
  | cons e rest ih => rw [dropAll, ih, drop_eq, List.flatMap_cons, List.append_assoc]

/-- Closing a bridge lets go of what waits in it, and nothing else is noted. -/
lemma closeBridge_frame (h : Hub) :
    h.closeBridge.journal = h.journal ++
        h.resident.flatMap (fun e => e.message.parting (.droppedFailure h.redaction)) ∧
      h.closeBridge.handedBack = h.handedBack := by
  unfold closeBridge resident
  cases h.bridge with
  | none => exact ⟨(List.append_nil _).symm, rfl⟩
  | some b =>
    dsimp only
    rw [dropAll_eq]
    exact ⟨rfl, rfl⟩

/-- Closing the bridge adds what letting go of its events does. -/
lemma adds_closeBridge (h : Hub) :
    Adds (h.resident.flatMap fun e => e.message.parting (.droppedFailure h.redaction)) h
      h.closeBridge := by
  obtain ⟨hj, hb⟩ := h.closeBridge_frame
  exact .entries hj hb

end Hub

/-- The messages of the events that have a buffer to release, in order. -/
def buffered (events : List Event) : List Message :=
  (events.map Event.message).filter (·.buffer.isSome)

/-- The message is released when it is parted with, if it has a buffer. -/
lemma released_parting (line : Message → ReleaseError → LogLine) (m : Message) :
    released (m.parting line) = if m.buffer.isSome then [m] else [] := by
  unfold Message.parting Message.releases
  cases m.buffer.isSome <;> cases m.releaseError? <;> rfl

/-- Letting go of a message takes nothing from the bridge and hands nothing to it. -/
lemma accepted_parting (line : Message → ReleaseError → LogLine) (m : Message) :
    accepted (m.parting line) = [] ∧ taken (m.parting line) = [] := by
  unfold Message.parting Message.releases
  cases m.buffer.isSome <;> cases m.releaseError? <;> exact ⟨rfl, rfl⟩

/-- When events are parted with their buffers are released, and nothing is handed over or taken. -/
lemma views_partings (line : Message → ReleaseError → LogLine) (events : List Event) :
    released (events.flatMap fun e => e.message.parting line) = buffered events ∧
      accepted (events.flatMap fun e => e.message.parting line) = [] ∧
      taken (events.flatMap fun e => e.message.parting line) = [] := by
  induction events with
  | nil => exact ⟨rfl, rfl, rfl⟩
  | cons e rest ih =>
    obtain ⟨hr, ha, ht⟩ := ih
    obtain ⟨hea, het⟩ := accepted_parting line e.message
    rw [List.flatMap_cons, released_append, accepted_append, taken_append, hr, ha, ht, hea, het,
      released_parting]
    refine ⟨?_, rfl, rfl⟩
    rw [buffered, buffered, List.map_cons, List.filter_cons]
    cases e.message.buffer.isSome <;> rfl

/-- Noting that events were taken hands nothing over and releases nothing. -/
lemma views_dequeued (events : List Event) :
    accepted (events.map Entry.dequeued) = [] ∧ taken (events.map Entry.dequeued) = events ∧
      released (events.map Entry.dequeued) = [] := by
  induction events with
  | nil => exact ⟨rfl, rfl, rfl⟩
  | cons e rest ih =>
    obtain ⟨ha, ht, hr⟩ := ih
    exact ⟨ha, congrArg (e :: ·) ht, hr⟩

end ChangeFeed
