import ChangeFeed.Proofs.Batch.Acknowledge

/-!
# Signals

The running flag is set by the start of a feed, and by nothing else; every other thread, and every
acknowledgement, can only clear it. `Heeds` is what that makes of an operation of a hub: whatever
signal comes while it lasts, from a thread that acts meanwhile or from a hook that it runs, and
whatever was signalled before, the flag is clear when it is over.
-/

namespace ChangeFeed

namespace Move

/-- Whether the move is a signal to stop. -/
def isSignal : Move → Bool
  | setRunning false => true
  | _ => false

/-- Whether the move sets the running flag. -/
def setsFlag : Move → Bool
  | setRunning true => true
  | _ => false

end Move

/-- No thread sets the running flag in a move. -/
def Restrained (schedule : List (List Move)) : Prop :=
  ∀ batch ∈ schedule, ∀ m ∈ batch, m.setsFlag = false

/-- A thread signals in one of its moves, or a hook does. -/
def Signalled (past : List (List Move)) (hooks : List (Hook Event)) : Prop :=
  (∃ batch ∈ past, ∃ m ∈ batch, m.isSignal = true) ∨ Hook.stop ∈ hooks

/-- Where nobody acts nobody signals. -/
lemma not_signalled_nil : ¬ Signalled [] [] := by
  simp [Signalled]

/-- Who signals in the one part or in the other signals in the whole. -/
lemma signalled_append {past more : List (List Move)} {as bs : List (Hook Event)} :
    Signalled (past ++ more) (as ++ bs) ↔ Signalled past as ∨ Signalled more bs := by
  simp only [Signalled, List.mem_append, or_and_right, exists_or]
  exact or_or_or_comm

/-- From the one hub to the other no flag is set, and after a signal it is clear. -/
def Hub.Heeds (hooks : List (Hook Event)) (h k : Hub) : Prop :=
  ∃ past, h.schedule = past ++ k.schedule ∧
    (Restrained past → h.running = false ∨ Signalled past hooks → k.running = false)

namespace Hub.Heeds

variable {h k l : Hub} {hooks more : List (Hook Event)}

/-- What leaves the flag and the schedule as they are. -/
lemma same (hs : k.schedule = h.schedule) (hr : k.running = h.running) : Heeds [] h k := by
  refine ⟨[], hs.symm, ?_⟩
  rintro - (hf | hf)
  · exact hr.trans hf
  · exact absurd hf not_signalled_nil

/-- A hub that stays as it is heeds signals. -/
lemma refl : Heeds [] h h :=
  same rfl rfl

/-- What clears the flag. -/
lemma clears (hs : k.schedule = h.schedule) (hr : k.running = false) : Heeds hooks h k :=
  ⟨[], hs.symm, fun _ _ => hr⟩

/-- What heeds signals in two parts heeds them as a whole. -/
lemma trans (hk : Heeds hooks h k) (kl : Heeds more k l) : Heeds (hooks ++ more) h l := by
  obtain ⟨past, hp, hc⟩ := hk
  obtain ⟨later, hl, hd⟩ := kl
  refine ⟨past ++ later, by rw [hp, hl, List.append_assoc], ?_⟩
  intro hr hs
  have hpast : Restrained past := fun b hb => hr b (List.mem_append_left _ hb)
  have hlater : Restrained later := fun b hb => hr b (List.mem_append_right _ hb)
  -- a signal that came first left the flag clear for what came later
  rw [signalled_append, ← or_assoc] at hs
  apply hd hlater
  exact hs.imp_left (hc hpast)

/-- What heeds the signals of threads may come afterwards. -/
lemma trans_nil (hk : Heeds hooks h k) (kl : Heeds [] k l) : Heeds hooks h l := by
  simpa using hk.trans kl

/-- What heeds the signals of threads may come first. -/
lemma nil_trans (hk : Heeds [] h k) (kl : Heeds hooks k l) : Heeds hooks h l := by
  simpa using hk.trans kl

/-- What is restrained stays so. -/
lemma restrained (hk : Heeds hooks h k) (hr : Restrained h.schedule) : Restrained k.schedule := by
  obtain ⟨past, hp, -⟩ := hk
  exact fun b hb => hr b (hp ▸ List.mem_append_right _ hb)

/-- A flag that is clear stays clear. -/
lemma stays_clear (hk : Heeds hooks h k) (hr : Restrained h.schedule) (hf : h.running = false) :
    k.running = false := by
  obtain ⟨past, hp, hc⟩ := hk
  exact hc (fun b hb => hr b (hp ▸ List.mem_append_left _ hb)) (.inl hf)

end Hub.Heeds

/-- Between two hubs another thread signalled, or the acknowledgement of an event did. -/
inductive Hub.Signalled (h k : Hub) : Prop where
  | thread {past batch m} :
    h.schedule = past ++ k.schedule →
    batch ∈ past →
    m ∈ batch →
    m.isSignal = true →
    Signalled h k
  | hook {e} :
    e ∈ acknowledged (h.since k) →
    Hook.stop ∈ e.hooks →
    Signalled h k

/-- The hooks of events, in order. -/
def hooksOf (events : List Event) : List (Hook Event) := events.flatMap Event.hooks

/-- A signal on the way is heeded. -/
lemma Hub.Heeds.clear_of_signalled {h k : Hub}
    (hk : Hub.Heeds (hooksOf (acknowledged (h.since k))) h k) (hr : Restrained h.schedule)
    (hs : h.Signalled k) : k.running = false := by
  obtain ⟨past, hp, hc⟩ := hk
  apply hc fun b hb => hr b (hp ▸ List.mem_append_left _ hb)
  cases hs with
  | @thread past' batch m hp' hb hm hsig =>
    obtain rfl : past' = past := List.append_cancel_right (hp'.symm.trans hp)
    exact .inr (.inl ⟨batch, hb, m, hm, hsig⟩)
  | @hook e he hstop => exact .inr (.inr (List.mem_flatMap.2 ⟨e, he, hstop⟩))

namespace Hub

/-- A release leaves the moves that others will make, and the flag. -/
lemma running_release (m : Message) (h : Hub) :
    (h.release m).2.schedule = h.schedule ∧ (h.release m).2.running = h.running := by
  unfold release
  cases m.buffer with
  | none => exact ⟨rfl, rfl⟩
  | some b => cases m.releaseError? <;> exact ⟨rfl, rfl⟩

/-- Noting something heeds signals. -/
lemma heeds_record (entry : Entry) (h : Hub) : Heeds [] h (h.record entry) :=
  .same rfl rfl

/-- A release heeds signals. -/
lemma heeds_release (m : Message) (h : Hub) : Heeds [] h (h.release m).2 := by
  obtain ⟨hs, hr⟩ := running_release m h
  exact .same hs hr

/-- A release that is logged heeds signals. -/
lemma heeds_releaseOrLog (line : RedactionLevel → Message → ReleaseError → LogLine) (m : Message)
    (h : Hub) : Heeds [] h (h.releaseOrLog line m) := by
  have hr := heeds_release m h
  unfold releaseOrLog
  split <;> rename_i hk <;> rw [hk] at hr
  · exact hr
  · exact hr.trans_nil (heeds_record _ _)

/-- Dropping a message leaves the flag. -/
lemma running_drop (m : Message) (h : Hub) : (h.drop m).running = h.running := by
  rw [drop_eq]

/-- Reporting a fault leaves the moves that others will make, and the flag. -/
lemma running_report (origin : Origin) (text : String) (h : Hub) :
    (h.report origin text).2.schedule = h.schedule ∧
      (h.report origin text).2.running = h.running := by
  unfold report
  cases h.bridge <;> exact ⟨rfl, rfl⟩

/-- Only moves that are about the flag change it. -/
lemma running_move (m : Move) (h : Hub) :
    m.setsFlag = false → h.running = false ∨ m.isSignal = true → (h.move m).running = false := by
  intro hm hf
  cases m with
  | setRunning running =>
    cases running with
    | true => cases hm
    | false => rfl
  | enqueue e =>
    have hr : (h.move (.enqueue e)).running = h.running := by
      simp only [move, enqueue]
      cases h.bridge <;> rfl
    exact hr.trans (hf.resolve_right Bool.false_ne_true)
  | report text =>
    exact (running_report .producer text h).2.trans (hf.resolve_right Bool.false_ne_true)
  | log line => exact hf.resolve_right Bool.false_ne_true
  | letGo i =>
    have hr : (h.move (.letGo i)).running = h.running := by
      simp only [move]
      cases h.handedBack[i]? with
      | none => rfl
      | some e => exact running_drop e.message _
    exact hr.trans (hf.resolve_right Bool.false_ne_true)

/-- A flag that is clear, or is cleared by one of the moves, is clear after moves that do not set
it. -/
lemma running_moves {ms : List Move} (hm : ∀ m ∈ ms, m.setsFlag = false) (h : Hub)
    (hf : h.running = false ∨ ∃ m ∈ ms, m.isSignal = true) : (moves ms h).running = false := by
  induction ms generalizing h with
  | nil => exact hf.resolve_right (by simp)
  | cons m rest ih =>
    have hmove := running_move m h (hm m List.mem_cons_self)
    refine ih (fun x hx => hm x (List.mem_cons_of_mem _ hx)) (h.move m) ?_
    obtain hf | ⟨x, hx, hs⟩ := hf
    · exact .inl (hmove (.inl hf))
    · obtain rfl | hx := List.mem_cons.1 hx
      · exact .inl (hmove (.inr hs))
      · exact .inr ⟨x, hx, hs⟩

/-- A flag that is set stays set if nobody signals. -/
lemma running_moves_true {ms : List Move} (hm : ∀ m ∈ ms, m.isSignal = false) (h : Hub)
    (hr : h.running = true) : (moves ms h).running = true := by
  induction ms generalizing h with
  | nil => exact hr
  | cons m rest ih =>
    refine ih (fun x hx => hm x (List.mem_cons_of_mem _ hx)) (h.move m) ?_
    have hone := hm m List.mem_cons_self
    cases m with
    | setRunning running =>
      cases running with
      | true => rfl
      | false => cases hone
    | enqueue e =>
      simp only [move, enqueue]
      cases h.bridge <;> exact hr
    | report text => exact (running_report .producer text h).2.trans hr
    | log line => exact hr
    | letGo i =>
      simp only [move]
      cases h.handedBack[i]? with
      | none => exact hr
      | some e => exact (running_drop e.message _).trans hr

/-- It stays set also while other threads act, if none of them signals. -/
lemma running_yield_true {h : Hub} (hr : h.running = true)
    (hs : ∀ past, h.schedule = past ++ h.yield.schedule →
      ∀ batch ∈ past, ∀ m ∈ batch, m.isSignal = false) : h.yield.running = true := by
  unfold yield at *
  cases hb : h.schedule with
  | nil => exact hr
  | cons batch rest =>
    simp only [hb, schedule_moves] at hs
    exact running_moves_true (hs [batch] rfl batch List.mem_cons_self) _ hr

/-- Moves that do not set the flag heed signals. -/
lemma heeds_moves {ms : List Move} (hm : ∀ m ∈ ms, m.setsFlag = false) (h : Hub) :
    Heeds [] h (moves ms h) := by
  refine ⟨[], (schedule_moves ms h).symm, ?_⟩
  rintro - (hf | hs)
  · exact running_moves hm h (.inl hf)
  · exact absurd hs not_signalled_nil

/-- Other threads act. -/
lemma heeds_yield (h : Hub) : Heeds [] h h.yield := by
  unfold yield
  cases hs : h.schedule with
  | nil => exact .refl
  | cons batch rest =>
    refine ⟨[batch], by rw [hs, schedule_moves]; rfl, ?_⟩
    intro hr hf
    refine running_moves (hr batch List.mem_cons_self) _ (hf.imp_right ?_)
    rintro (⟨b, hb, hm⟩ | hn)
    · obtain rfl := List.mem_singleton.1 hb
      exact hm
    · cases hn

/-- Reading the flag heeds signals. -/
lemma heeds_readFlag (h : Hub) : Heeds [] h h.readFlag.2 :=
  (heeds_yield h).trans_nil (heeds_record _ _)

/-- A flag that is clear is found clear. -/
lemma readFlag_of_clear {h : Hub} (hr : Restrained h.schedule) (hf : h.running = false) :
    h.readFlag = (false, h.yield.record (.flagRead false)) := by
  have hy : h.yield.running = false := (heeds_yield h).stays_clear hr hf
  rw [readFlag, hy]

/-- Waiting for an event heeds signals. -/
lemma heeds_dequeue (h : Hub) : Heeds [] h h.dequeue.2 := by
  refine (heeds_yield h).trans_nil ?_
  unfold dequeue
  dsimp only
  split <;> exact .same rfl rfl

/-- Taking a fault heeds signals. -/
lemma heeds_takeFault (h : Hub) : Heeds [] h h.takeFault.2 := by
  refine (heeds_yield h).trans_nil ?_
  obtain ⟨-, ht⟩ | ⟨b, text, -, -, ht⟩ := h.takeFault_cases
  · rw [ht]
    exact .refl
  · rw [ht]
    exact .same rfl rfl

/-- A hook that signals is heeded. -/
lemma heeds_runHook (hook : Hook Event) (h : Hub) : Heeds [hook] h (h.runHook hook) := by
  cases hook with
  | stop => exact .clears rfl rfl
  | report text =>
    obtain ⟨hs, hr⟩ := running_report .hook text h
    refine ⟨[], hs.symm, ?_⟩
    rintro - (hf | hf)
    · exact hr.trans hf
    · simp [ChangeFeed.Signalled] at hf
  | enqueue e =>
    have hk : Heeds [] h (h.runHook (.enqueue e)) := by
      simp only [runHook, enqueue]
      cases h.bridge with
      | none => exact (heeds_record _ h).trans_nil (heeds_releaseOrLog _ _ _)
      | some b => exact .same rfl rfl
    obtain ⟨past, hp, hc⟩ := hk
    refine ⟨past, hp, fun hr hf => hc hr (hf.imp_right ?_)⟩
    rintro (hm | hm)
    · exact .inl hm
    · simp at hm

/-- Hooks that signal are heeded. -/
lemma heeds_runHooks (hooks : List (Hook Event)) (h : Hub) : Heeds hooks h (runHooks hooks h) := by
  induction hooks generalizing h with
  | nil => exact .refl
  | cons hook rest ih =>
    have hone : Heeds [hook] h (h.yield.runHook hook) :=
      (heeds_yield h).nil_trans (heeds_runHook hook _)
    exact hone.trans (ih _)

/-- A signal of an acknowledgement is heeded. -/
lemma heeds_acknowledge (e : Event) (h : Hub) : Heeds e.hooks h (h.acknowledge e) := by
  have hr : Heeds [] h (h.yield.record (.acknowledged e)) :=
    (heeds_yield h).trans_nil (heeds_record _ _)
  exact hr.nil_trans (heeds_runHooks e.hooks _)

end Hub

end ChangeFeed
