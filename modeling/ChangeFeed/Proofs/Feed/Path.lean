import ChangeFeed.Feed
import ChangeFeed.Proofs.Batch.Path
import ChangeFeed.Proofs.Hub.Queue

/-!
# Calls of a feed as runs of steps

Every call of a feed leaves the hands as they are; `convert` first gives a message into them. A
start opens a bridge, and so a feed that was not started yet must not have one.
-/

namespace ChangeFeed.Feed

variable {ρ : Type} {h : Hub} {s g : Multiset Message}

/-- Discarding faults is a run. -/
lemma reaches_discardFaults : Reaches Act.serves ⟨h, s, g⟩ ⟨discardFaults h, s, g⟩ := by
  have ht := Hub.reaches_takeFault (h := h) (s := s) (g := g)
  fun_induction discardFaults h with
  | case1 h k hk =>
    rw [hk] at ht
    exact ht
  | case2 h fault k hk l hs ih =>
    rw [hk] at ht
    exact (ht.trans (Hub.reaches_log _).serves).trans (ih Hub.reaches_takeFault)
  | case3 h fault k hk l hs =>
    rw [hk] at ht
    exact ht.trans (Hub.reaches_log _).serves

/-- Joining a reader is a run, whatever the reader does meanwhile. -/
lemma reaches_joinReader [Reader ρ] (remaining : Span) (r : ρ) :
    Reaches Act.serves ⟨h, s, g⟩ ⟨(joinReader remaining r h).2.2, s, g⟩ := by
  -- one case for the last slice of the wait, and one for a slice that is followed by others
  fun_induction joinReader remaining r h with
  | case1 remaining r h k slice status moves r' hj l hr =>
    exact reaches_discardFaults.trans
      ((Hub.reaches_record rfl rfl).trans (Hub.reaches_moves moves)).serves
  | case2 remaining r h k slice status moves r' hj l hr ih =>
    have hd : Reaches Act.serves ⟨h, s, g⟩ ⟨l, s, g⟩ :=
      reaches_discardFaults.trans
        ((Hub.reaches_record rfl rfl).trans (Hub.reaches_moves moves)).serves
    exact hd.trans ih

/-- Ending a reader is a run. -/
lemma reaches_endReader [Reader ρ] (timeout : Span) (r : ρ) :
    Reaches Act.serves ⟨h, s, g⟩ ⟨endReader timeout r h, s, g⟩ := by
  have hd : Reaches Act.serves ⟨h, s, g⟩ ⟨h.record .shutDown, s, g⟩ := Hub.reaches_record rfl rfl
  have hj := hd.trans (reaches_joinReader timeout (Reader.shutDown r))
  unfold endReader
  split <;> rename_i hk <;> rw [hk] at hj
  · exact hj
  · exact hj.trans (Hub.reaches_log _).serves

/-- Releasing events takes all of them out of the hands, also after a failure. -/
lemma reaches_releaseAll (events : List Event) :
    Reaches Act.attends ⟨h, messages events + s, g⟩ ⟨(releaseAll events h).2, s, g⟩ := by
  induction events generalizing h with
  | nil =>
    rw [messages_nil, Multiset.zero_add]
    exact .refl
  | cons e rest ih =>
    have hr := Hub.reaches_yield.trans
      (Hub.reaches_release (h := h.yield) (s := messages rest + s) (g := g) e.message)
    rw [messages_cons, Multiset.cons_add]
    unfold releaseAll
    split <;> rename_i hk <;> rw [hk] at hr
    · exact hr.trans ih
    · exact (hr.trans (Hub.reaches_log _)).trans ih

/-- Releasing what waits and closing the bridge is a run. -/
lemma reaches_closeBridge : Reaches Act.any ⟨h, s, g⟩ ⟨(closeBridge h).2, s, g⟩ := by
  unfold closeBridge
  split
  · exact .refl
  · have hd := Hub.reaches_drain (h := h) (s := s) (g := g)
    have hl := hd.trans (Hub.reaches_log
      (.info "releasing unconsumed events" [("n", .number h.drain.1.length)])).serves
    have hr := hl.trans (reaches_releaseAll h.drain.1).serves
    exact (hr.trans Hub.reaches_yield.serves).any.trans Hub.reaches_closeBridge

/-- The hub of a feed that was told to stop and whose reader, if there was one, has been ended. -/
def ended [Reader ρ] (f : Feed ρ) : Hub :=
  match f.reader with
  | none => f.hub.setRunning false
  | some r => endReader f.context.joinTimeout r (f.hub.setRunning false)

/-- A stop ends the reader and closes the bridge, and leaves nothing of the feed. -/
lemma stop_eq [Reader ρ] (f : Feed ρ) :
    f.stop = ((closeBridge f.ended).1.elim (.ok ()) fun e => .error (.release e),
      ⟨f.context, .stopped, none, none, (closeBridge f.ended).2⟩) := by
  obtain ⟨context, state, assembler, reader, hub⟩ := f
  -- on the way the feed is stopping, unless it was stopped before
  cases reader with
  | none =>
    by_cases hs : state = .stopped <;> simp only [stop, ended, withHub, hs, if_true, if_false] <;>
      cases (closeBridge (hub.setRunning false)).1 <;> rfl
  | some r =>
    by_cases hs : state = .stopped <;> simp only [stop, ended, withHub, hs, if_true, if_false] <;>
      cases (closeBridge (endReader context.joinTimeout r (hub.setRunning false))).1 <;> rfl

/-- What a stop leaves of the hub. -/
lemma hub_stop [Reader ρ] (f : Feed ρ) : f.stop.2.hub = (closeBridge f.ended).2 := by
  rw [stop_eq]

/-- What a stop comes to is what closing the bridge comes to. -/
lemma stop_fst [Reader ρ] (f : Feed ρ) :
    f.stop.1 = (closeBridge f.ended).1.elim (.ok ()) fun e => .error (.release e) := by
  rw [stop_eq]

/-- The reader is ended, if there is one. -/
lemma reaches_ended [Reader ρ] (f : Feed ρ) :
    Reaches Act.serves ⟨f.hub, s, g⟩ ⟨f.ended, s, g⟩ := by
  have hf : Reaches Act.serves ⟨f.hub, s, g⟩ ⟨f.hub.setRunning false, s, g⟩ := .step .setRunning rfl
  unfold ended
  cases f.reader with
  | none => exact hf
  | some r => exact hf.trans (reaches_endReader f.context.joinTimeout r)

/-- A stop is a run. -/
lemma reaches_stop [Reader ρ] (f : Feed ρ) :
    Reaches Act.any ⟨f.hub, s, g⟩ ⟨f.stop.2.hub, s, g⟩ := by
  rw [stop_eq]
  exact (reaches_ended f).any.trans reaches_closeBridge

/-- The last stage of a start is a run if there is no bridge yet. -/
lemma reaches_launch (f : Feed ρ) (context : ReaderContext) (a : Assembler)
    (hb : f.hub.bridge = none) :
    Reaches Act.any ⟨f.hub, s, g⟩ ⟨(f.launch context a).2.hub, s, g⟩ := by
  have hr : Reaches Act.serves ⟨f.hub, s, g⟩ ⟨(f.hub.yield.setRunning true).yield, s, g⟩ :=
    (Hub.reaches_yield.serves.trans (.step .setRunning rfl)).trans Hub.reaches_yield.serves
  have ho : Reaches Act.any ⟨f.hub, s, g⟩
      ⟨(f.hub.yield.setRunning true).yield.openBridge, s, g⟩ :=
    hr.any.trans (.step (.opens (hr.bridge_eq_none hb)) rfl)
  have hm := ho.trans (Hub.reaches_moves (f.context.factory context).moves).any
  unfold launch
  dsimp only
  split
  · exact hm.trans (Hub.reaches_record rfl rfl)
  · exact (hm.trans (Hub.reaches_record rfl rfl)).trans (Hub.reaches_log _).any

/-- From reading the positions on, a start is a run if there is no bridge yet. -/
lemma reaches_resume (f : Feed ρ) (properties : Properties) (config : FeedConfig)
    (filter : Option Filter) (handler : Handler) (hb : f.hub.bridge = none) :
    Reaches Act.any ⟨f.hub, s, g⟩ ⟨(f.resume properties config filter handler).2.hub, s, g⟩ := by
  have hr : Reaches Act.serves ⟨f.hub, s, g⟩
      ⟨(f.hub.yield.record (.consulted ((codec config).sourcePartitions config.partitions))).log
        rawOffsetsLine, s, g⟩ :=
    (Hub.reaches_yield.serves.trans (Hub.reaches_record rfl rfl)).trans (Hub.reaches_log _).serves
  unfold resume
  dsimp only
  split
  · exact hr.any
  · have hp := hr.trans (Hub.reaches_log positionsLine).serves
    exact hp.any.trans (reaches_launch { f with hub := _ } _ _ (hp.bridge_eq_none hb))

/-- From the look-up on, a start is a run if there is no bridge yet. -/
lemma reaches_select (f : Feed ρ) (properties : Properties) (config : FeedConfig)
    (hb : f.hub.bridge = none) :
    Reaches Act.any ⟨f.hub, s, g⟩ ⟨(f.select properties config).2.hub, s, g⟩ := by
  unfold select
  split
  · exact .refl
  · split
    · exact .refl
    · exact reaches_resume f properties config _ _ hb

/-- A start is a run if a new feed has no bridge yet. -/
lemma reaches_start (f : Feed ρ) (properties : Properties)
    (hb : f.state = .new → f.hub.bridge = none) :
    Reaches Act.any ⟨f.hub, s, g⟩ ⟨(f.start properties).2.hub, s, g⟩ := by
  unfold start
  split
  · exact .refl
  · rename_i hn
    dsimp only
    split
    · exact .refl
    · rename_i config _
      have hr : Reaches Act.serves ⟨f.hub, s, g⟩
          ⟨{ f.hub.yield with redaction := config.logRedaction }, s, g⟩ :=
        Hub.reaches_yield.serves.trans (.step .setRedaction rfl)
      exact hr.any.trans (reaches_select { f with state := .starting, hub := _ } properties config
        (hr.bridge_eq_none (hb (by simpa using hn))))

/-- A poll is a run. -/
lemma reaches_poll (f : Feed ρ) : Reaches Act.any ⟨f.hub, s, g⟩ ⟨f.poll.2.hub, s, g⟩ := by
  unfold poll
  split
  · exact .refl
  · exact (Assembler.reaches_poll _).any

/-- A conversion is a run that starts with the event's message being given to the feed. -/
lemma reaches_convert (f : Feed ρ) (e : Event) :
    Reaches Act.any ⟨f.hub, s, g⟩ ⟨(f.convert e).2.hub, s, e.message ::ₘ g⟩ := by
  have hg : Reaches Act.any ⟨f.hub, s, g⟩ ⟨f.hub, e.message ::ₘ s, e.message ::ₘ g⟩ :=
    .step .give rfl
  unfold convert
  split
  · exact hg.trans (Hub.reaches_drop e.message).any
  · exact hg.trans (Assembler.reaches_process _ e).any

end ChangeFeed.Feed
