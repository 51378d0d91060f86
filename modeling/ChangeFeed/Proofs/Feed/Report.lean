import ChangeFeed.Proofs.Batch.Report
import ChangeFeed.Proofs.Feed.Release
import ChangeFeed.Proofs.Feed.Trace

/-!
# How the calls of a feed tell of failed releases

A poll or a conversion returns the error of a release that fails or warns of it. A stop warns of
each event that it drained and could not release, and returns the error of the first; `stop_drain`
tells these warnings from what other threads let go of meanwhile.
-/

namespace ChangeFeed

open Hub (Reports)

/-- The readers log nothing that reads like a warning of a failed release. -/
def QuietReaders (ρ : Type) [Reader ρ] : Prop :=
  ∀ (r : ρ) span slotFree, ∀ m ∈ (Reader.join r span slotFree).2.1, m.isQuiet

/-- Starting a reader logs nothing that reads like a warning of a failed release. -/
def ReaderFactory.Quiet {ρ : Type} (factory : ReaderFactory ρ) : Prop :=
  ∀ context, ∀ m ∈ (factory context).moves, m.isQuiet

/-- The line of a warning that a stop could not release a buffer, or that a conversion could
not. -/
def Entry.drainWarning? : Entry → Option LogLine
  | logged line => if line.message = "failed to release buffer" then some line else none
  | _ => none

/-- The warnings that buffers could not be released which were not just let go of. -/
def drainWarnings (journal : List Entry) : List LogLine :=
  journal.filterMap Entry.drainWarning?

/-- The warnings of a drain are those of the parts of a journal. -/
@[simp] lemma drainWarnings_append (as bs : List Entry) :
    drainWarnings (as ++ bs) = drainWarnings as ++ drainWarnings bs :=
  List.filterMap_append

/-- Where only drops are warned of, no drain warns. -/
lemma Reported.drainWarnings_eq {journal : List Entry} {errors : List ReleaseError}
    (h : Reported LogLine.TellsOfDrop journal errors) : drainWarnings journal = [] := by
  induction h with
  | nil => rfl
  | @silent x rest errors hx _ ih =>
    have hn : x.drainWarning? = none := by
      cases x with
      | logged line =>
        rw [Entry.isSilent, LogLine.isReleaseWarning] at hx
        simp_all [Entry.drainWarning?]
      | _ => rfl
    rw [drainWarnings, List.filterMap_cons_none hn]
    exact ih
  | @warned m e line rest errors _ hl _ ih =>
    obtain ⟨level, rfl⟩ := hl
    exact ih
  | returned _ _ ih => exact ih

/-- The events whose buffers cannot be released. -/
def unreleasable (events : List Event) : List Event :=
  events.filter (·.message.releaseError?.isSome)

/-- The line is the one with which a stop tells that the event could not be released. -/
def LogLine.TellsOfLeftover (line : LogLine) (e : Event) : Prop :=
  ∃ level cause, e.message.releaseError? = some cause ∧
    line = .leftoverFailure level e.message cause

namespace Feed

variable {ρ : Type}

/-- The last stage of a start reports what was reported before, unless the reader reports more. -/
lemma reports_launch {f : Feed ρ} {h : Hub} (hf : f.context.factory.Quiet)
    (hh : Reports LogLine.TellsOfDrop [] h f.hub) (context : ReaderContext) (a : Assembler) :
    Reports LogLine.TellsOfDrop [] h (f.launch context a).2.hub := by
  have hr : Reports LogLine.TellsOfDrop [] h (f.hub.yield.setRunning true) :=
    (hh.trans (Hub.reports_yield _)).trans (Hub.reports_setRunning true _)
  have ho : Reports LogLine.TellsOfDrop [] h (f.hub.yield.setRunning true).yield.openBridge :=
    (hr.trans (Hub.reports_yield _)).trans (.same rfl rfl)
  have hm := ho.trans (Hub.reports_moves (hf context) _)
  unfold launch
  dsimp only
  split
  · exact hm.trans (Hub.reports_record rfl _)
  · exact (hm.trans (Hub.reports_record rfl _)).trans (Hub.reports_log rfl _)

/-- From reading the positions on, a start reports what was reported before. -/
lemma reports_resume {f : Feed ρ} {h : Hub} (hf : f.context.factory.Quiet)
    (hh : Reports LogLine.TellsOfDrop [] h f.hub) (properties : Properties) (config : FeedConfig)
    (filter : Option Filter) (handler : Handler) :
    Reports LogLine.TellsOfDrop [] h (f.resume properties config filter handler).2.hub := by
  have hr : Reports LogLine.TellsOfDrop [] h
      ((f.hub.yield.record (.consulted ((codec config).sourcePartitions config.partitions))).log
        rawOffsetsLine) :=
    ((hh.trans (Hub.reports_yield _)).trans (Hub.reports_record rfl _)).trans
      (Hub.reports_log rfl _)
  unfold resume
  dsimp only
  split
  · exact hr
  · have hp : positionsLine.isReleaseWarning = false := rfl
    have hl := hr.trans (Hub.reports_log hp _)
    refine reports_launch ?_ ?_ _ _
    · exact hf
    · exact hl

/-- A start releases nothing but what the reader lets go of meanwhile. -/
lemma reports_start {f : Feed ρ} (hf : f.context.factory.Quiet) (properties : Properties) :
    Reports LogLine.TellsOfDrop [] f.hub (f.start properties).2.hub := by
  unfold start
  split
  · exact .refl
  · dsimp only
    split
    · exact .refl
    · rename_i config _
      have hs : Reports LogLine.TellsOfDrop [] f.hub
          { f.hub.yield with redaction := config.logRedaction } :=
        (Hub.reports_yield f.hub).trans (.same rfl rfl)
      unfold select
      split
      · exact hs
      · split
        · exact hs
        · refine reports_resume ?_ ?_ properties config _ _
          · exact hf
          · exact hs

/-- A poll returns the error of a release, or warns of it. -/
lemma reports_poll (f : Feed ρ) :
    Reports LogLine.TellsOf f.poll.1.releaseErrors f.hub f.poll.2.hub := by
  obtain ⟨-, hp⟩ | ⟨a, -, hp⟩ := f.poll_cases
  · rw [hp]
    exact .refl
  · rw [hp]
    exact a.reports_poll f.hub

/-- A conversion returns the error of the release, or warns of it. -/
lemma reports_convert (f : Feed ρ) (e : Event) :
    Reports LogLine.TellsOf (releaseErrors (f.convert e).1) f.hub (f.convert e).2.hub := by
  obtain ⟨-, hc⟩ | ⟨a, -, hc⟩ := f.convert_cases e
  · rw [hc]
    exact (Hub.reports_drop e.message f.hub).all
  · rw [hc]
    exact a.reports_process e f.hub

/-- Discarding faults reports what others do meanwhile. -/
lemma reports_discardFaults (h : Hub) :
    Reports LogLine.TellsOfDrop [] h (discardFaults h) := by
  have ht := Hub.reports_takeFault h
  fun_induction discardFaults h with
  | case1 h k hk =>
    rw [hk] at ht
    exact ht
  | case2 h fault k hk l hs ih =>
    rw [hk] at ht
    exact (ht.trans (Hub.reports_log rfl k)).trans (ih (Hub.reports_takeFault _))
  | case3 h fault k hk l hs =>
    rw [hk] at ht
    exact ht.trans (Hub.reports_log rfl k)

/-- Joining a reader reports what it reports itself. -/
lemma reports_joinReader [Reader ρ] (hq : QuietReaders ρ) (remaining : Span) (r : ρ) (h : Hub) :
    Reports LogLine.TellsOfDrop [] h (joinReader remaining r h).2.2 := by
  fun_induction joinReader remaining r h with
  | case1 remaining r h k slice status moves r' hj l hr =>
    have hm := hq r slice k.slotFree
    rw [hj] at hm
    have hd : Reports LogLine.TellsOfDrop [] k (k.record (.joined slice status)) :=
      Hub.reports_record rfl k
    exact (reports_discardFaults h).trans (hd.trans (Hub.reports_moves hm _))
  | case2 remaining r h k slice status moves r' hj l hr ih =>
    have hm := hq r slice k.slotFree
    rw [hj] at hm
    have hd : Reports LogLine.TellsOfDrop [] k (k.record (.joined slice status)) :=
      Hub.reports_record rfl k
    exact ((reports_discardFaults h).trans (hd.trans (Hub.reports_moves hm _))).trans ih

/-- Ending a reader reports what it reports itself. -/
lemma reports_endReader [Reader ρ] (hq : QuietReaders ρ) (timeout : Span) (r : ρ) (h : Hub) :
    Reports LogLine.TellsOfDrop [] h (endReader timeout r h) := by
  have hd : Reports LogLine.TellsOfDrop [] h (h.record .shutDown) := Hub.reports_record rfl h
  have hj := hd.trans (reports_joinReader hq timeout (Reader.shutDown r) _)
  unfold endReader
  split <;> rename_i hk <;> rw [hk] at hj
  · exact hj
  · exact hj.trans (Hub.reports_log rfl _)

/-- Releasing what waits reports the failure, with a warning. -/
lemma reports_leftover (m : Message) (h : Hub) :
    Reports LogLine.TellsOf [] h (h.releaseOrLog .leftoverFailure m) :=
  Hub.reports_releaseOrLog (fun level _ _ => ⟨level, .inr (.inl rfl)⟩) m h

/-- Releasing all that waits reports each failure, with a warning. -/
lemma reports_releaseAll (events : List Event) (h : Hub) :
    Reports LogLine.TellsOf [] h (releaseAll events h).2 := by
  induction events generalizing h with
  | nil => exact .refl
  | cons e rest ih =>
    rw [releaseAll_cons_snd]
    exact ((Hub.reports_yield h).all.trans (reports_leftover e.message _)).trans (ih _)

/-- Releasing what waits and closing the bridge reports each failure, with a warning. -/
lemma reports_closeBridge (h : Hub) : Reports LogLine.TellsOf [] h (closeBridge h).2 := by
  unfold closeBridge
  split
  · exact .refl
  · have hd := (Hub.reports_drain h).all
    have hl : Reports LogLine.TellsOf [] h.drain.2 (h.drain.2.log
        (.info "releasing unconsumed events" [("n", .number h.drain.1.length)])) :=
      Hub.reports_log rfl _
    have hr := (hd.trans hl).trans (reports_releaseAll h.drain.1 _)
    exact hr.trans ((Hub.reports_yield _).trans (Hub.reports_closeBridge _)).all

/-- Ending the reader of a feed reports what the reader reports itself. -/
lemma reports_ended [Reader ρ] (hq : QuietReaders ρ) (f : Feed ρ) :
    Reports LogLine.TellsOfDrop [] f.hub f.ended := by
  have hs : Reports LogLine.TellsOfDrop [] f.hub (f.hub.setRunning false) :=
    Hub.reports_setRunning false f.hub
  unfold ended
  cases f.reader with
  | none => exact hs
  | some r => exact hs.trans (reports_endReader hq _ r _)

/-- A stop reports each failure, with a warning. -/
lemma reports_stop [Reader ρ] (hq : QuietReaders ρ) (f : Feed ρ) :
    Reports LogLine.TellsOf [] f.hub f.stop.2.hub := by
  rw [hub_stop]
  exact (reports_ended hq f).all.trans (reports_closeBridge f.ended)

/-- The first event that cannot be released decides what a stop comes to. -/
lemma releaseAll_fst (events : List Event) (h : Hub) :
    (releaseAll events h).1 = (unreleasable events).head?.bind (·.message.releaseError?) := by
  induction events generalizing h with
  | nil => rfl
  | cons e rest ih =>
    have hr := h.yield.release_fst e.message
    unfold releaseAll
    cases he : e.message.releaseError? with
    | none =>
      have hu : unreleasable (e :: rest) = unreleasable rest := by simp [unreleasable, he]
      rw [he] at hr
      rw [hu]
      split <;> rename_i hk <;> rw [hk] at hr
      · exact ih _
      · cases hr
    | some cause =>
      have hu : unreleasable (e :: rest) = e :: unreleasable rest := by simp [unreleasable, he]
      rw [he] at hr
      rw [hu]
      split <;> rename_i hk <;> rw [hk] at hr
      · cases hr
      · obtain rfl := Except.error.inj hr
        exact he.symm

/-- Releasing events warns of those that cannot be released, one after the other, and of no
others. -/
lemma drainWarnings_releaseAll (events : List Event) {h : Hub} (hq : h.Quiet) :
    ∃ new, (releaseAll events h).2.journal = h.journal ++ new ∧
      List.Forall₂ LogLine.TellsOfLeftover (drainWarnings new) (unreleasable events) := by
  induction events generalizing h with
  | nil => exact ⟨[], (List.append_nil _).symm, .nil⟩
  | cons e rest ih =>
    obtain ⟨hyq, before, hy, hb⟩ := Hub.reports_yield h hq
    obtain ⟨hlq, -⟩ := reports_leftover e.message h.yield hyq
    obtain ⟨hl, -⟩ := Hub.releaseOrLog_frame .leftoverFailure e.message h.yield
    obtain ⟨after, hj, ha⟩ := ih hlq
    refine ⟨before ++ e.message.parting (.leftoverFailure h.yield.redaction) ++ after, ?_, ?_⟩
    · rw [releaseAll_cons_snd, hj, hl, hy]
      simp
    · rw [drainWarnings_append, drainWarnings_append, hb.drainWarnings_eq, List.nil_append]
      cases he : e.message.releaseError? with
      | none =>
        have hp : drainWarnings (e.message.parting (.leftoverFailure h.yield.redaction)) = [] := by
          rw [Message.parting, he, Message.releases]
          split <;> rfl
        have hu : unreleasable (e :: rest) = unreleasable rest := by simp [unreleasable, he]
        rw [hp, hu]
        exact ha
      | some cause =>
        have hu : unreleasable (e :: rest) = e :: unreleasable rest := by simp [unreleasable, he]
        rw [Message.parting_of_error _ he, hu]
        exact .cons ⟨_, cause, he, rfl⟩ ha

/-- The line before the events that still wait are released. -/
def drainLine (events : List Event) : LogLine :=
  .info "releasing unconsumed events" [("n", .number events.length)]

/-- Logging how many events were drained leaves a hub quiet. -/
lemma drainLine_quiet {h : Hub} {events : List Event} (hq : h.Quiet) :
    (h.log (drainLine events)).Quiet := hq

/-- Nothing is drained from a closed bridge. -/
lemma drain_of_closed {h : Hub} (hb : h.bridge = none) : h.drain.1 = [] := by
  have hy : h.yield.bridge = none :=
    (Hub.reaches_yield (s := 0) (g := 0)).serves.bridge_eq_none hb
  unfold Hub.drain
  simp [hy]

/-- Closing a bridge warns of the events drained from it that cannot be released, and the first of
them decides what the closing comes to. -/
lemma closeBridge_drain {h : Hub} (hq : h.Quiet) :
    (closeBridge h).1 = (unreleasable h.drain.1).head?.bind (·.message.releaseError?) ∧
      ∃ new, (closeBridge h).2.journal = h.journal ++ new ∧
        List.Forall₂ LogLine.TellsOfLeftover (drainWarnings new) (unreleasable h.drain.1) := by
  unfold closeBridge
  split
  · rename_i hb
    rw [drain_of_closed hb]
    exact ⟨rfl, [], (List.append_nil _).symm, .nil⟩
  · obtain ⟨hdq, before, hd, hbefore⟩ := Hub.reports_drain h hq
    obtain ⟨own, hr, hown⟩ := drainWarnings_releaseAll h.drain.1 (drainLine_quiet hdq)
    obtain ⟨hrq, -⟩ := reports_releaseAll h.drain.1 _ (drainLine_quiet hdq)
    obtain ⟨-, after, ha, hafter⟩ :=
      ((Hub.reports_yield _).trans (Hub.reports_closeBridge _)) hrq
    refine ⟨releaseAll_fst _ _, before ++ .logged (drainLine h.drain.1) :: own ++ after, ?_, ?_⟩
    · refine ha.trans ?_
      rw [hr, Hub.log, Hub.journal_record, hd]
      simp
    · rw [drainWarnings_append, drainWarnings_append, hbefore.drainWarnings_eq,
        hafter.drainWarnings_eq, List.append_nil]
      exact hown

/-- What a stop comes to. -/
lemma stop_drain [Reader ρ] (hr : QuietReaders ρ) {f : Feed ρ} (hq : f.hub.Quiet) :
    f.stop.1 = ((unreleasable f.ended.drain.1).head?.bind (·.message.releaseError?)).elim (.ok ())
        (fun e => .error (.release e)) ∧
      ∃ new, f.stop.2.hub.journal = f.hub.journal ++ new ∧
        List.Forall₂ LogLine.TellsOfLeftover (drainWarnings new)
          (unreleasable f.ended.drain.1) := by
  obtain ⟨heq, before, hb, hbefore⟩ := reports_ended hr f hq
  obtain ⟨hfst, own, hj, hown⟩ := closeBridge_drain heq
  refine ⟨by rw [stop_fst, hfst], before ++ own, ?_, ?_⟩
  · rw [hub_stop, hj, hb, List.append_assoc]
  · rw [drainWarnings_append, hbefore.drainWarnings_eq]
    exact hown

end Feed

end ChangeFeed
