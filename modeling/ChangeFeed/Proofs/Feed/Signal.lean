import ChangeFeed.Proofs.Batch.Halt
import ChangeFeed.Proofs.Feed.Lifecycle
import ChangeFeed.Proofs.Feed.Passage
import ChangeFeed.Proofs.Hub.Frame

/-!
# Telling a feed to stop

Whoever tells a feed to stop clears its running flag, from any thread and at any time, and a stop
clears it too. Only a start that has everything but the reader sets it, whatever was signalled until
then, and a feed has one such start at most. `Signals` lists the ways in which a call can be a
signal or can come with one, and `Halted` is what a signal makes of a feed: every later call leaves
it so, unless the feed was new and is then started that far. A poll of such a feed takes nothing.
-/

namespace ChangeFeed

/-- What other threads do between two calls does not set the running flag. -/
def Call.Restrained : Call → Prop
  | others ms => ∀ m ∈ ms, m.setsFlag = false
  | _ => True

/-- The fault that was taken from its slot. -/
def Entry.faultTaken? : Entry → Option String
  | faultTaken fault => some fault
  | _ => none

/-- The faults that were taken from their slot, in order. -/
def faultsTaken (journal : List Entry) : List String := journal.filterMap Entry.faultTaken?

/-- Only the thread that polls takes faults. -/
lemma Entry.ByHolder.faultTaken? {held : List Event} {x : Entry} (hx : x.ByHolder held) :
    x.faultTaken? = none := by
  cases x <;> first | rfl | cases hx

namespace Feed

variable {ρ : Type} {f : Feed ρ} {k : Hub}

/-- Until the configuration is accepted the flag is left to others. -/
lemma heeds_configured (f : Feed ρ) (config : FeedConfig) :
    Hub.Heeds [] f.hub (f.configured config) :=
  (Hub.heeds_yield f.hub).trans_nil (.same rfl rfl)

/-- Asking for the saved positions leaves the flag to others. -/
lemma heeds_consulting (f : Feed ρ) (config : FeedConfig) :
    Hub.Heeds [] f.hub (f.consulting config) :=
  ((f.heeds_configured config).trans_nil (Hub.heeds_yield _)).trans_nil (.same rfl rfl)

/-- Until the flag is set it is left to others. -/
lemma heeds_ready (f : Feed ρ) (config : FeedConfig) : Hub.Heeds [] f.hub (f.ready config) :=
  ((f.heeds_consulting config).trans_nil (Hub.heeds_record _ _)).trans_nil (Hub.heeds_yield _)

/-- Once the flag is set it is left to others and to the reader that is being started. -/
lemma heeds_launching (f : Feed ρ) (config : FeedConfig) {ms : List Move}
    (hm : ∀ m ∈ ms, m.setsFlag = false) :
    Hub.Heeds [] (f.raised config) (Hub.moves ms (f.opening config)) := by
  have ho : Hub.Heeds [] (f.raised config) (f.opening config) :=
    (Hub.heeds_yield _).trans_nil (.same rfl rfl)
  exact ho.trans_nil (Hub.heeds_moves hm _)

/-- What a start makes of the running flag. It is left to others, unless the start gets as far as
asking for the reader: then it is set, whatever became of it before, and from there on it is left to
others and to the reader. -/
inductive FlagTrace (f : Feed ρ) (k : Hub) : Prop where
  | kept {own} :
    Hub.Adds own f.hub k →
    readerCalls own = [] →
    acknowledged own = [] →
    Hub.Heeds [] f.hub k →
    FlagTrace f k
  | set {own context succeeded} :
    Hub.Adds own (f.raised context.config) k →
    readerCalls own = [.launched context succeeded] →
    acknowledged own = [] →
    (Hub.moves (f.context.factory context).moves (f.opening context.config)).Notes k →
    FlagTrace f k

/-- Once the reader made its moves the rest of a start only notes something. -/
lemma flagTrace_of_launched {config : FeedConfig} {properties : Properties} {positions : Positions}
    {ms : List Move} {outcome : Except String ρ} {own : List Entry} {succeeded : Bool}
    (hl : f.context.factory (.of config properties positions) = ⟨ms, outcome⟩)
    (hk : (Hub.moves ms (f.opening config)).Notes k)
    (ha : Hub.Adds own (Hub.moves ms (f.opening config)) k)
    (hc : readerCalls own = [.launched (.of config properties positions) succeeded])
    (hack : acknowledged own = []) : f.FlagTrace k := by
  have hm : (f.context.factory (.of config properties positions)).moves = ms := by rw [hl]
  have ht := @FlagTrace.set ρ f k own (.of config properties positions) succeeded
  rw [hm] at ht
  exact ht ((f.adds_launching config ms).nil_trans ha) hc hack hk

/-- What a start makes of the flag is read off the stage at which it ends. -/
lemma flagTrace_start (f : Feed ρ) (properties : Properties) :
    f.FlagTrace (f.start properties).2.hub := by
  by_cases hn : f.state = .new
  · obtain ⟨result, g, hs⟩ := f.exists_staged properties
    rw [hs.start_eq hn]
    cases hs with
    | unaccepted _ => exact .kept .refl rfl rfl .refl
    | unresolved _ _ => exact .kept (f.adds_configured _) rfl rfl (f.heeds_configured _)
    | undecoded _ _ => exact .kept (f.adds_consulting _) rfl rfl (f.heeds_consulting _)
    | @unlaunched config _ _ positions ms _ _ hl =>
      exact flagTrace_of_launched hl (.record _) (Hub.adds_record _ _) rfl rfl
    | @launched config _ _ positions ms _ _ hl =>
      exact flagTrace_of_launched hl ((Hub.Notes.record _).trans (.record _))
        ((Hub.adds_record _ _).trans (Hub.adds_log _ _)) rfl rfl
  · rw [start_of_ne_new properties hn]
    exact .kept .refl rfl rfl .refl

namespace FlagTrace

/-- A start only adds to the journal. -/
lemma adds (ht : f.FlagTrace k) : ∃ own, Hub.Adds own f.hub k := by
  cases ht with
  | kept ha _ _ _ => exact ⟨_, ha⟩
  | set ha _ _ _ => exact ⟨_, (f.adds_raised _).trans ha⟩

/-- A start acknowledges nothing. -/
lemma acknowledged_since (ht : f.FlagTrace k) : acknowledged (f.hub.since k) = [] := by
  cases ht with
  | kept ha _ hack _ => exact (ChangeFeed.acknowledged_since ha).trans hack
  | set ha _ hack _ =>
    rw [ChangeFeed.acknowledged_since ((f.adds_raised _).trans ha), acknowledged_append, hack]
    rfl

/-- A start that does not ask for the reader heeds every signal. -/
lemma heeds (ht : f.FlagTrace k) (hn : ∀ call ∈ readerCalls (f.hub.since k), ¬ call.isLaunch) :
    Hub.Heeds (hooksOf (acknowledged (f.hub.since k))) f.hub k := by
  rw [ht.acknowledged_since]
  cases ht with
  | kept _ _ _ hh => exact hh
  | @set own context succeeded ha hc _ _ =>
    rw [readerCalls_since ((f.adds_raised _).trans ha), readerCalls_append, hc] at hn
    exact absurd rfl (hn _ (List.mem_append_right _ List.mem_cons_self))

/-- A start that asks for the reader leaves the flag as it is after the reader's moves. -/
lemma launched (ht : f.FlagTrace k) {context : ReaderContext} {succeeded : Bool}
    (hl : .launched context succeeded ∈ readerCalls (f.hub.since k)) :
    acknowledged ((f.raised context.config).since k) = [] ∧
      (Hub.moves (f.context.factory context).moves (f.opening context.config)).Notes k := by
  cases ht with
  | kept ha hc _ _ =>
    rw [readerCalls_since ha, hc] at hl
    cases hl
  | @set own other _ ha hc hack hk =>
    have hraised : readerCalls [.consulted other.config.asked, .logged rawOffsetsLine,
      .logged positionsLine] = [] := rfl
    rw [readerCalls_since ((f.adds_raised _).trans ha), readerCalls_append, hraised, hc] at hl
    cases List.mem_singleton.1 hl
    exact ⟨(ChangeFeed.acknowledged_since ha).trans hack, hk⟩

/-- Nobody sets the flag of a started feed if nobody did so before. -/
lemma restrained (ht : f.FlagTrace k) (hr : Restrained f.hub.schedule) : Restrained k.schedule := by
  cases ht with
  | kept _ _ _ hh => exact hh.restrained hr
  | @set own context succeeded _ _ _ hk =>
    have hraised : Restrained (f.raised context.config).schedule := (f.heeds_ready _).restrained hr
    rw [hk.schedule, Hub.schedule_moves]
    exact (Hub.heeds_yield _).restrained hraised

/-- A signal that comes once the flag was set is heeded. -/
lemma clear_of_signal (ht : f.FlagTrace k) {context : ReaderContext} {succeeded : Bool}
    (hl : .launched context succeeded ∈ readerCalls (f.hub.since k))
    (hr : Restrained f.hub.schedule)
    (hm : ∀ m ∈ (f.context.factory context).moves, m.setsFlag = false)
    (hs : (f.raised context.config).Signalled k ∨
      ∃ m ∈ (f.context.factory context).moves, m.isSignal = true) : k.running = false := by
  obtain ⟨hack, hk⟩ := ht.launched hl
  obtain hs | hs := hs
  · have hh : Hub.Heeds [] (f.raised context.config) k :=
      (f.heeds_launching _ hm).trans_nil (.same hk.schedule hk.running)
    have hraised : Restrained (f.raised context.config).schedule := (f.heeds_ready _).restrained hr
    refine Hub.Heeds.clear_of_signalled ?_ hraised hs
    rw [hack]
    exact hh
  · rw [hk.running]
    exact Hub.running_moves hm _ (.inr hs)

/-- A signal that came before is forgotten: if none comes once the flag was set, it stays set. -/
lemma set_of_not_signal (ht : f.FlagTrace k) {context : ReaderContext} {succeeded : Bool}
    (hl : .launched context succeeded ∈ readerCalls (f.hub.since k))
    (hm : ∀ m ∈ (f.context.factory context).moves, m.isSignal = false)
    (hs : ¬ (f.raised context.config).Signalled k) : k.running = true := by
  obtain ⟨-, hk⟩ := ht.launched hl
  have hschedule : k.schedule = (f.raised context.config).yield.schedule := by
    rw [hk.schedule, Hub.schedule_moves]
    rfl
  have hy : (f.raised context.config).yield.running = true := by
    apply Hub.running_yield_true rfl
    intro past hp batch hb m hm
    rw [← hschedule] at hp
    by_contra hsig
    exact hs (.thread hp hb hm (by simpa using hsig))
  rw [hk.running]
  exact Hub.running_moves_true hm _ hy

end FlagTrace

/-- A poll heeds the signals that come while it lasts, from other threads or from an
acknowledgement. -/
lemma heeds_poll (f : Feed ρ) :
    Hub.Heeds (hooksOf (acknowledged (f.hub.since f.poll.2.hub))) f.hub f.poll.2.hub := by
  obtain ⟨-, hp⟩ | ⟨a, -, hp⟩ := f.poll_cases
  · rw [hp, acknowledged_since .refl]
    exact .refl
  · rw [hp]
    exact a.heeds_poll f.hub

/-- A conversion heeds the signals that come while it lasts. -/
lemma heeds_convert (f : Feed ρ) (e : Event) :
    Hub.Heeds (hooksOf (acknowledged (f.hub.since (f.convert e).2.hub))) f.hub
      (f.convert e).2.hub := by
  obtain ⟨-, hc⟩ | ⟨a, -, hc⟩ := f.convert_cases e
  · have hack : acknowledged (e.message.parting (.droppedFailure f.hub.redaction)) = [] :=
      acknowledged_of_isClearing fun _ => Message.isClearing_of_mem_parting
    rw [hc]
    show Hub.Heeds (hooksOf (acknowledged (f.hub.since (f.hub.drop e.message)))) _ _
    rw [acknowledged_since (Hub.adds_drop e.message f.hub), hack]
    exact Hub.heeds_releaseOrLog _ _ _
  · obtain ⟨own, hb, ha⟩ := a.adds_process e f.hub
    rw [hc]
    show Hub.Heeds (hooksOf (acknowledged (f.hub.since (a.process e f.hub).2))) _ _
    rw [acknowledged_since ha, hb.acknowledged_eq]
    exact a.heeds_process e f.hub

/-- A feed that was told to stop, or was stopped. -/
inductive Halted (f : Feed ρ) : Prop where
  | told :
    Restrained f.hub.schedule →
    f.hub.running = false →
    Halted f
  | stopped :
    f.state = .stopped →
    Halted f

/-- A poll of the feed returns at once and takes nothing: it is refused, or it finds the flag
clear. -/
structure PollsInVain (f : Feed ρ) : Prop where
  result : f.poll = (.done (.error (.notRunning f.state)), f) ∨
    f.poll = (.done (.ok []), f.withHub fun h => h.yield.record (.flagRead false))
  taken : taken (f.hub.since f.poll.2.hub) = []
  faults : faultsTaken (f.hub.since f.poll.2.hub) = []

/-- A poll that is refused, or finds the flag clear, takes nothing. -/
lemma PollsInVain.of_result (hf : f.poll = (.done (.error (.notRunning f.state)), f) ∨
    f.poll = (.done (.ok []), f.withHub fun h => h.yield.record (.flagRead false))) :
    f.PollsInVain := by
  have hadds : Hub.Adds [] f.hub f.poll.2.hub ∨ Hub.Adds [.flagRead false] f.hub f.poll.2.hub := by
    obtain hp | hp := hf <;> rw [hp]
    · exact .inl .refl
    · exact .inr (.nil_trans (Hub.adds_yield f.hub) (Hub.adds_record _ _))
  refine ⟨hf, ?_, ?_⟩
  · obtain ha | ha := hadds <;> exact taken_since ha
  · obtain ha | ha := hadds <;> exact ha.filterMap_since fun _ _ hx => hx.faultTaken?

/-- A feed that was told to stop, or was stopped, is polled in vain. -/
lemma Halted.pollsInVain (hf : f.Halted) : f.PollsInVain := by
  apply PollsInVain.of_result
  obtain ⟨-, hp⟩ | ⟨a, ha, hp⟩ := f.poll_cases
  · exact .inl hp
  · cases hf with
    | told hr hrun =>
      rw [a.poll_of_clear hr hrun] at hp
      exact .inr hp
    | stopped hs => simp [polling?, hs] at ha

end Feed

namespace World

variable {ρ : Type} {w : World ρ} {c : Call} {f g : Feed ρ}

/-- Nobody but a start sets the running flag: neither other threads during a call nor a reader while
it is being started. -/
structure Restrained (w : World ρ) : Prop where
  schedule : ChangeFeed.Restrained w.hub.schedule
  factory : ∀ f, w.place = .feed f →
    ∀ context, ∀ m ∈ (f.context.factory context).moves, m.setsFlag = false

/-- The feed is told to stop by a call, or while it lasts. A start that gets as far as asking for
the reader sets the running flag; with such a start only what comes after that counts. -/
inductive Signals [Reader ρ] (w : World ρ) : Call → Prop where
  /-- The call does nothing else. -/
  | handle : Signals w .signal
  /-- Another thread tells it between two calls. -/
  | between {ms m} :
    m ∈ ms →
    m.isSignal = true →
    Signals w (.others ms)
  /-- Another thread tells it during the call, or the acknowledgement of an event does. -/
  | meanwhile {d} :
    (∀ properties, d = .start properties →
      ∀ call ∈ readerCalls (w.hub.since (w.step d).hub), ¬ call.isLaunch) →
    w.hub.Signalled (w.step d).hub →
    Signals w d
  /-- Another thread tells it during a start, when the flag was set. -/
  | raised {f properties context succeeded} :
    w.place = .feed f →
    .launched context succeeded ∈ readerCalls (w.hub.since (w.step (.start properties)).hub) →
    (f.raised context.config).Signalled (w.step (.start properties)).hub →
    Signals w (.start properties)
  /-- The reader that is being started tells it, or another thread does at that time. -/
  | starting {f properties context succeeded m} :
    w.place = .feed f →
    .launched context succeeded ∈ readerCalls (w.hub.since (w.step (.start properties)).hub) →
    m ∈ (f.context.factory context).moves →
    m.isSignal = true →
    Signals w (.start properties)

/-- The hub of a world is that of its feed. -/
lemma hub_of_place (hf : w.place = .feed f) : w.hub = f.hub := by
  rw [hub, hf]

/-- A poll of a world is one of its feed. -/
lemma hub_step_poll [Reader ρ] (hf : w.place = .feed f) : (w.step .poll).hub = f.poll.2.hub := by
  obtain ⟨place, converted⟩ := w
  obtain rfl : place = .feed f := hf
  rfl

/-- A poll that takes something is not in vain. -/
lemma not_pollsInVain [Reader ρ] (hg : w.place = .feed g)
    (ht : (taken (w.hub.since (w.step .poll).hub)).length = 1) : ¬ g.PollsInVain := by
  intro hvain
  rw [hub_step_poll hg, hub_of_place hg, hvain.taken] at ht
  cases ht

/-- A call heeds the signals that come while it lasts, unless it is a start that gets as far as
asking for the reader. After a stop the flag does not matter. -/
lemma heeds_step [Reader ρ] (hc : c.Restrained) (hf : w.place = .feed f)
    (hg : (w.step c).place = .feed g)
    (hn : ∀ properties, c = .start properties →
      ∀ call ∈ readerCalls (f.hub.since g.hub), ¬ call.isLaunch) :
    g.state = .stopped ∨ Hub.Heeds (hooksOf (acknowledged (f.hub.since g.hub))) f.hub g.hub := by
  obtain ⟨place, converted⟩ := w
  obtain rfl : place = .feed f := hf
  cases c with
  | start properties =>
    cases hg
    exact .inr ((f.flagTrace_start properties).heeds (hn properties rfl))
  | poll =>
    cases hg
    exact .inr f.heeds_poll
  | convert e =>
    cases hg
    exact .inr (f.heeds_convert e)
  | stop =>
    cases hg
    exact .inl f.parts_stop.1
  | signal =>
    cases hg
    exact .inr (.clears rfl rfl)
  | others ms =>
    cases hg
    right
    show Hub.Heeds (hooksOf (acknowledged (f.hub.since (Hub.moves ms f.hub)))) _ _
    rw [acknowledged_since (Hub.adds_moves ms f.hub)]
    exact Hub.heeds_moves hc f.hub
  | letGo => cases hg

/-- What a signal makes of a feed. -/
lemma halted_of_signals [Reader ρ] (hw : w.Restrained) (hc : c.Restrained) (hs : w.Signals c)
    (hf : w.place = .feed f) (hg : (w.step c).place = .feed g) : g.Halted := by
  have hr : ChangeFeed.Restrained f.hub.schedule := hub_of_place hf ▸ hw.schedule
  have hfactory := hw.factory f hf
  obtain ⟨place, converted⟩ := w
  obtain rfl : place = .feed f := hf
  cases hs with
  | handle =>
    cases hg
    exact .told hr rfl
  | @between ms m hm hsig =>
    cases hg
    refine .told ?_ (Hub.running_moves hc f.hub (.inr ⟨m, hm, hsig⟩))
    show ChangeFeed.Restrained (Hub.moves ms f.hub).schedule
    rwa [Hub.schedule_moves]
  | meanwhile hn hsig =>
    rw [hub_of_place hg] at hn hsig
    obtain hstop | hh := heeds_step hc rfl hg hn
    · exact .stopped hstop
    · exact .told (hh.restrained hr) (hh.clear_of_signalled hr hsig)
  | @raised _ properties context succeeded hf hl hsig =>
    cases hf
    cases hg
    have ht := f.flagTrace_start properties
    exact .told (ht.restrained hr) (ht.clear_of_signal hl hr (hfactory context) (.inl hsig))
  | @starting _ properties context succeeded m hf hl hm hsig =>
    cases hf
    cases hg
    have ht := f.flagTrace_start properties
    exact .told (ht.restrained hr)
      (ht.clear_of_signal hl hr (hfactory context) (.inr ⟨m, hm, hsig⟩))

/-- Whatever is called, the journal is added to. -/
lemma adds_step [Reader ρ] (w : World ρ) (c : Call) : ∃ own, Hub.Adds own w.hub (w.step c).hub := by
  obtain ⟨place, converted⟩ := w
  cases place with
  | feed f =>
    cases c with
    | start properties => exact (f.flagTrace_start properties).adds
    | poll =>
      show ∃ own, Hub.Adds own f.hub f.poll.2.hub
      obtain ⟨-, hp⟩ | ⟨a, -, hp⟩ := f.poll_cases <;> rw [hp]
      · exact ⟨_, .refl⟩
      · obtain ⟨own, -, ha⟩ := a.adds_poll f.hub
        exact ⟨own, ha⟩
    | convert e =>
      show ∃ own, Hub.Adds own f.hub (f.convert e).2.hub
      obtain ⟨-, hc⟩ | ⟨a, -, hc⟩ := f.convert_cases e <;> rw [hc]
      · exact ⟨_, Hub.adds_drop e.message f.hub⟩
      · obtain ⟨own, -, ha⟩ := a.adds_process e f.hub
        exact ⟨own, ha⟩
    | stop =>
      obtain ⟨own, -, ha⟩ := f.adds_stop
      exact ⟨own, ha⟩
    | signal => exact ⟨_, Hub.adds_setRunning false f.hub⟩
    | others ms => exact ⟨_, Hub.adds_moves ms f.hub⟩
    | letGo =>
      obtain ⟨late, ha⟩ := Feed.adds_letGo f.hub
      exact ⟨_, ha⟩
  | bridge h =>
    cases c with
    | others ms => exact ⟨_, Hub.adds_moves ms h⟩
    | letGo =>
      obtain ⟨late, ha⟩ := Feed.adds_letGo h
      exact ⟨_, ha⟩
    | _ => exact ⟨_, .refl⟩

/-- Whatever is called one after the other, the journal is added to. -/
lemma adds_run [Reader ρ] (calls : List Call) (w : World ρ) :
    ∃ own, Hub.Adds own w.hub (w.run calls).hub := by
  induction calls generalizing w with
  | nil => exact ⟨[], .refl⟩
  | cons c rest ih =>
    obtain ⟨own, ha⟩ := w.adds_step c
    obtain ⟨more, hb⟩ := ih (w.step c)
    exact ⟨own ++ more, ha.trans hb⟩

/-- A feed that was told to stop stays so, unless it is new and is started as far as asking for the
reader. -/
lemma halted_step [Reader ρ] (hh : f.Halted) (hc : c.Restrained) (hf : w.place = .feed f)
    (hg : (w.step c).place = .feed g)
    (hn : f.state = .new → ∀ call ∈ readerCalls (f.hub.since g.hub), ¬ call.isLaunch) :
    g.Halted := by
  cases hh with
  | told hr hrun =>
    have hstart (properties : Properties) (hs : c = .start properties) :
        ∀ call ∈ readerCalls (f.hub.since g.hub), ¬ call.isLaunch := by
      by_cases hnew : f.state = .new
      · exact hn hnew
      · -- the start is refused
        obtain ⟨place, converted⟩ := w
        obtain rfl : place = .feed f := hf
        subst hs
        cases hg
        rw [Feed.start_of_ne_new properties hnew, readerCalls_since .refl]
        nofun
    obtain hstop | hheeds := heeds_step hc hf hg hstart
    · exact .stopped hstop
    · exact .told (hheeds.restrained hr) (hheeds.stays_clear hr hrun)
  | stopped hs => exact .stopped ((next_step hf hg).stopped hs)

/-- A feed that was told to stop stays so, whatever is called, unless it is new and is then started
as far as asking for the reader. -/
lemma halted_run [Reader ρ] {calls : List Call} (hh : f.Halted) (hc : ∀ d ∈ calls, d.Restrained)
    (hf : w.place = .feed f) (hg : (w.run calls).place = .feed g)
    (hn : f.state = .new → ∀ call ∈ readerCalls (f.hub.since g.hub), ¬ call.isLaunch) :
    g.Halted := by
  induction calls generalizing w f with
  | nil =>
    cases hf.symm.trans hg
    exact hh
  | cons d rest ih =>
    obtain ⟨k, hk⟩ := feed_of_run (w := w.step d) hg
    obtain ⟨own, ha⟩ := w.adds_step d
    obtain ⟨more, hb⟩ := adds_run rest (w.step d)
    have hg' : ((w.step d).run rest).place = .feed g := hg
    rw [hub_of_place hf, hub_of_place hk] at ha
    rw [hub_of_place hk, hub_of_place hg'] at hb
    have hs := Hub.Handles.since_eq ha.woven.1 hb.woven.1
    rw [hs, readerCalls_append] at hn
    have hnew : k.state = .new → f.state = .new := by
      have hle : f.state.rank ≤ k.state.rank := (next_step hf hk).rank_le
      rw [← FeedState.rank_eq_zero_iff, ← FeedState.rank_eq_zero_iff]
      omega
    have hstep : k.Halted :=
      halted_step hh (hc d List.mem_cons_self) hf hk
        fun hfn call hcall => hn hfn call (List.mem_append_left _ hcall)
    exact ih hstep (fun x hx => hc x (List.mem_cons_of_mem _ hx)) hk hg
      fun hkn call hcall => hn (hnew hkn) call (List.mem_append_right _ hcall)

/-- A signal is kept once the running flag was set. One that reaches a feed, by a call or while one
lasts, is kept whatever is called afterwards, unless the feed was new and is then started as far as
asking for the reader: every later poll returns at once and takes nothing. A poll during which a
signal comes takes nothing after the operation that is under way, and processes no event but the one
that it has in hand then. And a start that gets as far as asking for the reader forgets what was
signalled before it set the flag, be it while the start lasted: unless a signal comes after that,
the flag is set when the start is over. -/
theorem signal_kept [Reader ρ] (hw : w.Restrained) :
    (∀ c more g, (∀ d ∈ c :: more, d.Restrained) → w.Signals c →
      (w.run (c :: more)).place = .feed g →
      ((w.step c).state? = some .new →
        ∀ call ∈ readerCalls ((w.step c).hub.since g.hub), ¬ call.isLaunch) →
      g.PollsInVain) ∧
    (∀ f a, w.place = .feed f → f.polling? = some a → a.Halting f.hub) ∧
    ∀ f properties context succeeded, w.place = .feed f →
      .launched context succeeded ∈ readerCalls (w.hub.since (w.step (.start properties)).hub) →
      (∀ m ∈ (f.context.factory context).moves, m.isSignal = false) →
      ¬ (f.raised context.config).Signalled (w.step (.start properties)).hub →
      (w.step (.start properties)).hub.running = true := by
  refine ⟨?_, ?_, ?_⟩
  · intro c more g hc hs hg hn
    obtain ⟨f, hf⟩ := feed_of_run hg
    obtain ⟨k, hk⟩ := feed_of_run (w := w.step c) hg
    have hhalted := halted_of_signals hw (hc c List.mem_cons_self) hs hf hk
    have hstate : (w.step c).state? = some k.state := by rw [state?, hk]
    rw [hstate, Option.some_inj, hub_of_place hk] at hn
    have hrun := halted_run hhalted (fun x hx => hc x (List.mem_cons_of_mem _ hx)) hk hg hn
    exact hrun.pollsInVain
  · intro f a hf _
    apply a.halting
    rw [← hub_of_place hf]
    exact hw.schedule
  · intro f properties context succeeded hf hl hm hs
    obtain ⟨place, converted⟩ := w
    obtain rfl : place = .feed f := hf
    exact (f.flagTrace_start properties).set_of_not_signal hl hm hs

open Doubles

/-- A feed that is told to stop while its reader is being started. -/
def hasty : World StandIn :=
  ⟨.feed (.new ⟨fun _ => [], fun _ => ⟨[.setRunning false], .ok (.inl ⟨false⟩)⟩, .builtin,
    defaultJoinTimeout⟩ (Hub.idle .none)), []⟩

/-- A feed that another thread tells to stop at one of the points of a start at which others act. -/
def interruptedFeed (point : Nat) : Feed StandIn :=
  .new ⟨fun _ => [], idleFactory false, .builtin, defaultJoinTimeout⟩
    { Hub.idle .none with schedule := List.replicate point [] ++ [[.setRunning false]] }

/-- That feed, before it is started. -/
def interrupted (point : Nat) : World StandIn :=
  ⟨.feed (interruptedFeed point), []⟩

/-- The reader of the hasty feed does not set the flag. -/
lemma restrained_hasty : hasty.Restrained := by
  refine ⟨nofun, ?_⟩
  rintro f ⟨⟩ context m hm
  obtain rfl := List.mem_singleton.1 hm
  rfl

/-- Who interrupts a feed does not set the flag. -/
lemma restrained_interrupted (point : Nat) : (interrupted point).Restrained := by
  refine ⟨?_, ?_⟩
  · intro batch hb m hm
    obtain hb | hb := List.mem_append.1 hb
    · rw [List.eq_of_mem_replicate hb] at hm
      cases hm
    · obtain rfl := List.mem_singleton.1 hb
      obtain rfl := List.mem_singleton.1 hm
      rfl
  · rintro f ⟨⟩ context m hm
    cases hm

/-- A feed of stand-ins that is started asks for its reader. -/
lemma readerCalls_launched (f : Feed StandIn) (ms : List Move) (reader : StandIn) :
    readerCalls (f.hub.since (launched f ms reader).hub) =
      [.launched (.of travel (properties []) []) true] :=
  readerCalls_since (((f.adds_opening travel ms).trans (Hub.adds_record _ _)).trans
    (Hub.adds_log _ _))

section

variable {v : World StandIn} {k : Feed StandIn} {ms : List Move} {reader : StandIn}

/-- A start of a feed of stand-ins. -/
lemma step_start (hk : v.place = .feed k) (hn : k.state = .new)
    (hr : k.context.registry = .builtin) (hs : k.context.storage = fun _ => [])
    (hl : k.context.factory (.of travel (properties []) []) = ⟨ms, .ok reader⟩) :
    v.step (.start (properties [])) = ⟨.feed (launched k ms reader), v.converted⟩ := by
  obtain ⟨place, converted⟩ := v
  obtain rfl : place = .feed k := hk
  show (⟨.feed (k.start (properties [])).2, converted⟩ : World StandIn) = _
  rw [start_eq_launched hn hr hs hl]

/-- It asks for the reader. -/
lemma mem_readerCalls_start (hk : v.place = .feed k) (hn : k.state = .new)
    (hr : k.context.registry = .builtin) (hs : k.context.storage = fun _ => [])
    (hl : k.context.factory (.of travel (properties []) []) = ⟨ms, .ok reader⟩) :
    .launched (.of travel (properties []) []) true ∈
      readerCalls (v.hub.since (v.step (.start (properties []))).hub) := by
  rw [step_start hk hn hr hs hl, hub_of_place hk]
  show _ ∈ readerCalls (k.hub.since (launched k ms reader).hub)
  rw [readerCalls_launched]
  exact List.mem_cons_self

end

/-- The reader of the hasty feed tells it to stop. -/
lemma signals_hasty : hasty.Signals (.start (properties [])) :=
  .starting rfl (mem_readerCalls_start rfl rfl rfl rfl rfl) (List.mem_singleton.2 rfl) rfl

/-- A signal that was still to come, and is not any more, came meanwhile. -/
lemma signalled_of_emptied {h k : Hub} {past : List (List Move)}
    (hp : h.schedule = past ++ [[.setRunning false]]) (hk : k.schedule = []) :
    h.Signalled k := by
  have hpast : h.schedule = (past ++ [[.setRunning false]]) ++ k.schedule := by
    rw [hk, List.append_nil, hp]
  exact .thread hpast (List.mem_append_right _ List.mem_cons_self) List.mem_cons_self rfl

/-- At the fourth point the flag was set. -/
lemma signals_interrupted : (interrupted 3).Signals (.start (properties [])) := by
  have hs : ((interrupted 3).step (.start (properties []))).hub.schedule = [] := by
    rw [step_start rfl rfl rfl rfl rfl]
    rfl
  exact .raised rfl (mem_readerCalls_start rfl rfl rfl rfl rfl)
    (signalled_of_emptied (show _ = [] ++ _ from rfl) hs)

/-- A feed is started, and an event is handed over. -/
def underWay : List Call := [.start (properties []), .others [.enqueue (mutation 0 1)]]

/-- None of these calls sets the flag. -/
lemma restrained_underWay : ∀ d ∈ underWay, d.Restrained := by
  simp [underWay, Call.Restrained, Move.setsFlag]

/-- A feed of stand-ins gets under way. -/
lemma run_underWay {v : World StandIn} {k : Feed StandIn} {ms : List Move} {reader : StandIn}
    (hk : v.place = .feed k) (hn : k.state = .new) (hr : k.context.registry = .builtin)
    (hs : k.context.storage = fun _ => [])
    (hl : k.context.factory (.of travel (properties []) []) = ⟨ms, .ok reader⟩) :
    v.run underWay =
      (⟨.feed (launched k ms reader), v.converted⟩ : World StandIn).step
        (.others [.enqueue (mutation 0 1)]) := by
  show (v.step (.start (properties []))).step (.others [.enqueue (mutation 0 1)]) = _
  rw [step_start hk hn hr hs hl]

/-- Both feeds are running, but a poll of them does not take what was handed over. -/
theorem signal_kept_hasty :
    (∃ g, (hasty.run underWay).place = .feed g ∧ g.state = .running ∧ g.PollsInVain) ∧
      ∃ g, ((interrupted 3).run underWay).place = .feed g ∧ g.state = .running ∧
        g.PollsInVain := by
  have hnew (w : World StandIn) (g k : Feed StandIn)
      (hk : (w.step (.start (properties []))).place = .feed k) (hs : k.state ≠ .new) :
      (w.step (.start (properties []))).state? = some .new →
        ∀ call ∈ readerCalls ((w.step (.start (properties []))).hub.since g.hub),
          ¬ call.isLaunch := by
    intro hstate
    rw [state?, hk] at hstate
    exact absurd (Option.some.inj hstate) hs
  have hhasty : (hasty.run underWay).state? = some .running := by
    rw [run_underWay rfl rfl rfl rfl rfl]
    rfl
  have hinterrupted : ((interrupted 3).run underWay).state? = some .running := by
    rw [run_underWay rfl rfl rfl rfl rfl]
    rfl
  obtain ⟨g, hg, hs⟩ := state?_eq_some hhasty
  obtain ⟨k, hk, ht⟩ := state?_eq_some hinterrupted
  obtain ⟨hkept, -, -⟩ := signal_kept restrained_hasty
  obtain ⟨kkept, -, -⟩ := signal_kept (restrained_interrupted 3)
  exact ⟨⟨g, hg, hs, hkept _ _ g restrained_underWay signals_hasty hg
      (hnew hasty g _ rfl (Feed.state_start_ne_new _ _))⟩,
    k, hk, ht, kkept _ _ k restrained_underWay signals_interrupted hk
      (hnew (interrupted 3) k _ rfl (Feed.state_start_ne_new _ _))⟩

/-- A signal that comes before the flag is set is lost, be it before the start or during it: a poll
takes what was handed over. -/
theorem signal_before_flag_lost :
    (∃ g, (idle.run (.signal :: underWay)).place = .feed g ∧ ¬ g.PollsInVain) ∧
      (interrupted 1).hub.Signalled ((interrupted 1).step (.start (properties []))).hub ∧
      ∃ g, ((interrupted 1).run underWay).place = .feed g ∧ ¬ g.PollsInVain := by
  have hbefore : (taken ((idle.run (.signal :: underWay)).hub.since
      ((idle.run (.signal :: underWay)).step .poll).hub)).length = 1 := by
    show (taken (((idle.step .signal).run underWay).hub.since
      (((idle.step .signal).run underWay).step .poll).hub)).length = 1
    rw [run_underWay rfl rfl rfl rfl rfl]
    decide +kernel
  have hduring : (taken (((interrupted 1).run underWay).hub.since
      (((interrupted 1).run underWay).step .poll).hub)).length = 1 := by
    rw [run_underWay rfl rfl rfl rfl rfl]
    decide +kernel
  have hs : ((interrupted 1).step (.start (properties []))).hub.schedule = [] := by
    rw [step_start rfl rfl rfl rfl rfl]
    rfl
  exact ⟨⟨_, rfl, not_pollsInVain rfl hbefore⟩,
    signalled_of_emptied (show _ = [[]] ++ _ from rfl) hs, _, rfl, not_pollsInVain rfl hduring⟩

end World

end ChangeFeed
