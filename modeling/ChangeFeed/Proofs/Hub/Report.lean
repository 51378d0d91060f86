import ChangeFeed.Proofs.Hub.Trace
import Mathlib.Data.List.Forall2

/-!
# How a failed release comes to be known

A release that fails is followed by a warning, or its error is returned to whoever asked for the
release. `Reported` reads a part of the journal in this way, and `Reports` says of an operation that
the part which it adds can be read so, with the errors that it returned. Other threads let go of
events, which warns of failures, too; that they log nothing else that reads like such a warning is
what `Quiet` says.
-/

namespace ChangeFeed

/-- Whether the line is worded like a warning that a buffer could not be released. -/
def LogLine.isReleaseWarning (line : LogLine) : Bool :=
  line.message = "failed to release buffer" ||
    line.message = "failed to release buffer of dropped message"

/-- The line tells that the message was let go of and its buffer could not be released. -/
def LogLine.TellsOfDrop (line : LogLine) (m : Message) (e : ReleaseError) : Prop :=
  ∃ level, line = .droppedFailure level m e

/-- The line tells that the buffer of the message could not be released. -/
def LogLine.TellsOf (line : LogLine) (m : Message) (e : ReleaseError) : Prop :=
  ∃ level, line = .droppedFailure level m e ∨ line = .leftoverFailure level m e ∨
    line = .abandonedFailure level m e

/-- Whether the entry is neither a failed release nor a warning of one. -/
def Entry.isSilent : Entry → Bool
  | released m => m.releaseError?.isNone
  | logged line => !line.isReleaseWarning
  | _ => true

/-- Each failed release is followed by its warning, or its error is among those returned, and there
are no other warnings. -/
inductive Reported (tells : LogLine → Message → ReleaseError → Prop) :
    List Entry → List ReleaseError → Prop where
  | nil : Reported tells [] []
  | silent {x rest errors} :
    x.isSilent →
    Reported tells rest errors →
    Reported tells (x :: rest) errors
  | warned {m e line rest errors} :
    m.releaseError? = some e →
    tells line m e →
    Reported tells rest errors →
    Reported tells (.released m :: .logged line :: rest) errors
  | returned {m e rest errors} :
    m.releaseError? = some e →
    Reported tells rest errors →
    Reported tells (.released m :: rest) (e :: errors)

namespace Reported

variable {tells wider : LogLine → Message → ReleaseError → Prop} {as bs : List Entry}
  {errors more : List ReleaseError} {x : Entry}

/-- What is reported in two parts is reported as a whole. -/
lemma append (ha : Reported tells as errors) (hb : Reported tells bs more) :
    Reported tells (as ++ bs) (errors ++ more) := by
  induction ha with
  | nil => exact hb
  | silent hx _ ih => exact .silent hx ih
  | warned he hl _ ih => exact .warned he hl ih
  | returned he _ ih => exact .returned he ih

/-- Lines that tell of a failure in a narrower sense tell of it in a wider one. -/
lemma mono (ha : Reported tells as errors) (hw : ∀ line m e, tells line m e → wider line m e) :
    Reported wider as errors := by
  induction ha with
  | nil => exact .nil
  | silent hx _ ih => exact .silent hx ih
  | warned he hl _ ih => exact .warned he (hw _ _ _ hl) ih
  | returned he _ ih => exact .returned he ih

end Reported

/-- The message whose buffer could not be released. -/
def Entry.failed? : Entry → Option Message
  | released m => if m.releaseError?.isSome then some m else none
  | _ => none

/-- The messages whose buffers could not be released. -/
def failures (journal : List Entry) : List Message :=
  journal.filterMap Entry.failed?

/-- The line of a warning that a buffer could not be released. -/
def Entry.releaseWarning? : Entry → Option LogLine
  | logged line => if line.isReleaseWarning then some line else none
  | _ => none

/-- The warnings that buffers could not be released. -/
def warnings (journal : List Entry) : List LogLine :=
  journal.filterMap Entry.releaseWarning?

/-- The failures of a journal, entry by entry. -/
lemma failures_cons (x : Entry) (journal : List Entry) :
    failures (x :: journal) = x.failed?.toList ++ failures journal := by
  rw [failures, failures, List.filterMap_cons]
  cases x.failed? <;> rfl

/-- The warnings of a journal, entry by entry. -/
lemma warnings_cons (x : Entry) (journal : List Entry) :
    warnings (x :: journal) = x.releaseWarning?.toList ++ warnings journal := by
  rw [warnings, warnings, List.filterMap_cons]
  cases x.releaseWarning? <;> rfl

/-- A silent entry shows neither a failed release nor a warning. -/
lemma Entry.views_of_isSilent {x : Entry} (hx : x.isSilent) :
    x.failed? = none ∧ x.releaseWarning? = none := by
  cases x with
  | released m => simp_all [isSilent, failed?, releaseWarning?]
  | logged line => simp_all [isSilent, failed?, releaseWarning?]
  | _ => exact ⟨rfl, rfl⟩

/-- A line that tells of the failure of a release is a warning of one. -/
lemma LogLine.TellsOf.isReleaseWarning {line : LogLine} {m : Message} {e : ReleaseError}
    (h : line.TellsOf m e) : line.isReleaseWarning := by
  obtain ⟨level, rfl | rfl | rfl⟩ := h <;> rfl

/-- The failed releases are those that the warnings tell of together with those whose errors were
returned, warning by warning and error by error. -/
lemma Reported.accounts {journal : List Entry} {errors : List ReleaseError}
    (h : Reported LogLine.TellsOf journal errors) :
    ∃ warned returned : List Message,
      (failures journal).Perm (warned ++ returned) ∧
      List.Forall₂ (fun line m => ∃ e, m.releaseError? = some e ∧ line.TellsOf m e)
        (warnings journal) warned ∧
      List.Forall₂ (fun e m => m.releaseError? = some e) errors returned := by
  induction h with
  | nil => exact ⟨[], [], .refl _, .nil, .nil⟩
  | @silent x rest errors hx _ ih =>
    obtain ⟨hr, hw⟩ := Entry.views_of_isSilent hx
    rw [failures_cons, warnings_cons, hr, hw]
    exact ih
  | @warned m e line rest errors he hl _ ih =>
    obtain ⟨warned, returned, hp, hw, hr⟩ := ih
    have hf : failures (.released m :: .logged line :: rest) = m :: failures rest := by
      simp [failures_cons, Entry.failed?, he]
    have hwarn : warnings (.released m :: .logged line :: rest) = line :: warnings rest := by
      simp [warnings_cons, Entry.releaseWarning?, hl.isReleaseWarning]
    rw [hf, hwarn]
    exact ⟨m :: warned, returned, hp.cons m, .cons ⟨e, he, hl⟩ hw, hr⟩
  | @returned m e rest errors he _ ih =>
    obtain ⟨warned, returned, hp, hw, hr⟩ := ih
    have hf : failures (.released m :: rest) = m :: failures rest := by
      simp [failures_cons, Entry.failed?, he]
    rw [hf]
    exact ⟨warned, m :: returned, (hp.cons m).trans List.perm_middle.symm, hw, .cons he hr⟩

/-- Whether the move logs nothing that reads like a warning of a failed release. -/
def Move.isQuiet : Move → Bool
  | .log line => !line.isReleaseWarning
  | _ => true

namespace Hub

/-- Other threads will log nothing that reads like a warning of a failed release. -/
def Quiet (h : Hub) : Prop :=
  ∀ batch ∈ h.schedule, ∀ m ∈ batch, m.isQuiet

/-- From one hub to the other every failed release was reported, the errors returned being the given
ones, and other threads stay quiet. -/
def Reports (tells : LogLine → Message → ReleaseError → Prop) (errors : List ReleaseError)
    (h k : Hub) : Prop :=
  h.Quiet → k.Quiet ∧ ∃ new, k.journal = h.journal ++ new ∧ Reported tells new errors

namespace Reports

variable {tells wider : LogLine → Message → ReleaseError → Prop} {errors more : List ReleaseError}
  {h k l : Hub}

/-- What two operations report they report as a whole. -/
lemma trans (hk : Reports tells errors h k) (kl : Reports tells more k l) :
    Reports tells (errors ++ more) h l := by
  intro hq
  obtain ⟨hkq, new, hj, hr⟩ := hk hq
  obtain ⟨hlq, rest, lj, lr⟩ := kl hkq
  exact ⟨hlq, new ++ rest, by rw [lj, hj, List.append_assoc], hr.append lr⟩

/-- An operation that reports in a narrower sense does so in a wider one. -/
lemma mono (hk : Reports tells errors h k) (hw : ∀ line m e, tells line m e → wider line m e) :
    Reports wider errors h k := by
  intro hq
  obtain ⟨hkq, new, hj, hr⟩ := hk hq
  exact ⟨hkq, new, hj, hr.mono hw⟩

/-- Where the journal and the schedule stay, nothing is reported. -/
lemma same (hj : k.journal = h.journal) (hs : k.schedule = h.schedule) : Reports tells [] h k := by
  intro hq
  rw [Quiet, hs]
  exact ⟨hq, [], by rw [hj, List.append_nil], .nil⟩

/-- A hub that stays as it is reports nothing. -/
lemma refl : Reports tells [] h h :=
  same rfl rfl

/-- The entries that were added are given. -/
lemma entries {new : List Entry} (hj : k.journal = h.journal ++ new)
    (hs : k.schedule = h.schedule) (hr : Reported tells new errors) : Reports tells errors h k := by
  intro hq
  rw [Quiet, hs]
  exact ⟨hq, new, hj, hr⟩

/-- An operation that only adds a silent entry reports nothing. -/
lemma one {x : Entry} (hj : k.journal = h.journal ++ [x]) (hs : k.schedule = h.schedule)
    (hx : x.isSilent) : Reports tells [] h k :=
  entries hj hs (.silent hx .nil)

end Reports

variable {tells : LogLine → Message → ReleaseError → Prop} {h k : Hub}

/-- Noting something silent reports nothing. -/
lemma reports_record {x : Entry} (hx : x.isSilent) (h : Hub) : Reports tells [] h (h.record x) :=
  .one rfl rfl hx

/-- Logging a line reports nothing unless it warns of a release. -/
lemma reports_log {line : LogLine} (hl : line.isReleaseWarning = false) (h : Hub) :
    Reports tells [] h (h.log line) :=
  reports_record (by simp [Entry.isSilent, hl]) h

/-- Setting or clearing the flag reports nothing. -/
lemma reports_setRunning (running : Bool) (h : Hub) : Reports tells [] h (h.setRunning running) :=
  .same rfl rfl

/-- Handing over an event reports nothing. -/
lemma reports_enqueue (origin : Origin) (e : Event) (h : Hub) :
    Reports tells [] h (h.enqueue origin e).2 := by
  unfold enqueue
  cases h.bridge with
  | none => exact reports_record rfl h
  | some b => exact .one rfl rfl rfl

/-- Handing over a fault reports nothing. -/
lemma reports_report (origin : Origin) (text : String) (h : Hub) :
    Reports tells [] h (h.report origin text).2 := by
  unfold report
  cases h.bridge with
  | none => exact reports_record rfl h
  | some b => exact .one rfl rfl rfl

/-- The error that a release comes to, if it fails. -/
def failure : Except ReleaseError Unit → List ReleaseError
  | .ok () => []
  | .error e => [e]

/-- A release that fails returns its error. -/
lemma reports_release (m : Message) (h : Hub) :
    Reports tells (failure (h.release m).1) h (h.release m).2 := by
  unfold release
  cases hb : m.buffer with
  | none => exact .refl
  | some b =>
    cases he : m.releaseError? with
    | none => exact .one rfl rfl (by simp [Entry.isSilent, he])
    | some e => exact .entries rfl rfl (.returned he .nil)

/-- A release whose error is logged returns none. -/
lemma reports_releaseOrLog {line : RedactionLevel → Message → ReleaseError → LogLine}
    (hl : ∀ level m e, tells (line level m e) m e) (m : Message) (h : Hub) :
    Reports tells [] h (h.releaseOrLog line m) := by
  unfold releaseOrLog release
  cases hb : m.buffer with
  | none => exact .refl
  | some b =>
    cases he : m.releaseError? with
    | none => exact .one rfl rfl (by simp [Entry.isSilent, he])
    | some e =>
      have hr : Reported tells [.released m, .logged (line h.redaction m e)] [] :=
        .warned he (hl _ m e) .nil
      exact .entries (by simp [log, record]) rfl hr

/-- Dropping a message reports the failure of its release. -/
lemma reports_drop (m : Message) (h : Hub) : Reports LogLine.TellsOfDrop [] h (h.drop m) :=
  reports_releaseOrLog (fun level _ _ => ⟨level, rfl⟩) m h

/-- Letting go of events reports the failures of their releases. -/
lemma reports_dropAll (events : List Event) (h : Hub) :
    Reports LogLine.TellsOfDrop [] h (dropAll events h) := by
  induction events generalizing h with
  | nil => exact .refl
  | cons e rest ih => exact (reports_drop e.message h).trans (ih (h.drop e.message))

/-- A move of another thread reports what letting go of an event does, unless it logs such a
warning. -/
lemma reports_move {m : Move} (hm : m.isQuiet) (h : Hub) :
    Reports LogLine.TellsOfDrop [] h (h.move m) := by
  cases m with
  | enqueue e =>
    have he : Reports LogLine.TellsOfDrop [] h (h.enqueue .producer e).2 :=
      reports_enqueue .producer e h
    simp only [move]
    split <;> rename_i hk <;> rw [hk] at he
    · exact he
    · exact he.trans (.same rfl rfl)
  | report text => exact reports_report .producer text h
  | setRunning running => exact reports_setRunning running h
  | log line => exact reports_log (by simpa [Move.isQuiet] using hm) h
  | letGo i =>
    simp only [move]
    cases h.handedBack[i]? with
    | none => exact .refl
    | some e =>
      have hs : Reports LogLine.TellsOfDrop [] h { h with handedBack := h.handedBack.eraseIdx i } :=
        .same rfl rfl
      exact hs.trans (reports_drop e.message _)

/-- Moves of other threads report what letting go of events does, unless they log such warnings. -/
lemma reports_moves {ms : List Move} (hm : ∀ m ∈ ms, m.isQuiet) (h : Hub) :
    Reports LogLine.TellsOfDrop [] h (moves ms h) := by
  induction ms generalizing h with
  | nil => exact .refl
  | cons m rest ih =>
    have hr := ih (fun x hx => hm x (List.mem_cons_of_mem _ hx)) (h.move m)
    exact (reports_move (hm m List.mem_cons_self) h).trans hr

/-- The next batch of moves is quiet, and so are those after it. -/
lemma reports_yield (h : Hub) : Reports LogLine.TellsOfDrop [] h h.yield := by
  intro hq
  unfold yield
  cases hs : h.schedule with
  | nil => exact Reports.refl hq
  | cons batch rest =>
    have hbatch : ∀ m ∈ batch, m.isQuiet := hq batch (by simp [hs])
    have hrest : Quiet { h with schedule := rest } :=
      fun later hl => hq later (hs ▸ List.mem_cons_of_mem _ hl)
    exact reports_moves hbatch _ hrest

/-- Reading the flag reports what others do meanwhile. -/
lemma reports_readFlag (h : Hub) : Reports LogLine.TellsOfDrop [] h h.readFlag.2 :=
  (reports_yield h).trans (reports_record rfl _)

/-- Waiting for an event reports what others do meanwhile. -/
lemma reports_dequeue (h : Hub) : Reports LogLine.TellsOfDrop [] h h.dequeue.2 := by
  unfold dequeue
  dsimp only
  cases h.yield.bridge.bind Bridge.dequeue with
  | none => exact (reports_yield h).trans (reports_record rfl _)
  | some r => exact (reports_yield h).trans (.one rfl rfl rfl)

/-- Taking a fault reports what others do meanwhile. -/
lemma reports_takeFault (h : Hub) : Reports LogLine.TellsOfDrop [] h h.takeFault.2 := by
  rcases h.takeFault_cases with ⟨-, ht⟩ | ⟨b, text, -, -, ht⟩
  · rw [ht]
    exact reports_yield h
  · rw [ht]
    exact (reports_yield h).trans (.one rfl rfl rfl)

/-- A hook reports the failure to release an event that a closed bridge refused. -/
lemma reports_runHook (hook : Hook Event) (h : Hub) :
    Reports LogLine.TellsOfDrop [] h (h.runHook hook) := by
  cases hook with
  | stop => exact reports_setRunning false h
  | report text => exact reports_report .hook text h
  | enqueue e =>
    have he : Reports LogLine.TellsOfDrop [] h (h.enqueue .hook e).2 := reports_enqueue .hook e h
    simp only [runHook]
    split <;> rename_i hk <;> rw [hk] at he
    · exact he
    · exact he.trans (reports_drop e.message _)

/-- Hooks report what each of them does. -/
lemma reports_runHooks (hooks : List (Hook Event)) (h : Hub) :
    Reports LogLine.TellsOfDrop [] h (runHooks hooks h) := by
  induction hooks generalizing h with
  | nil => exact .refl
  | cons hook rest ih =>
    exact ((reports_yield h).trans (reports_runHook hook _)).trans (ih (h.yield.runHook hook))

/-- An acknowledgement reports what its hooks do. -/
lemma reports_acknowledge (e : Event) (h : Hub) :
    Reports LogLine.TellsOfDrop [] h (h.acknowledge e) :=
  ((reports_yield h).trans (reports_record rfl _)).trans (reports_runHooks e.hooks _)

/-- Noting that events were taken reports nothing. -/
lemma reports_recordDequeued (events : List Event) (h : Hub) :
    Reports tells [] h (recordDequeued events h) := by
  induction events generalizing h with
  | nil => exact .refl
  | cons e rest ih => exact Reports.trans (reports_record rfl h) (ih (h.record (.dequeued e)))

/-- Draining the bridge reports what others do meanwhile. -/
lemma reports_drain (h : Hub) : Reports LogLine.TellsOfDrop [] h h.drain.2 := by
  unfold drain
  dsimp only
  cases hb : h.yield.bridge with
  | none => exact reports_yield h
  | some b =>
    have hs : Reports LogLine.TellsOfDrop [] h.yield { h.yield with bridge := some b.drain.2 } :=
      .same rfl rfl
    exact (reports_yield h).trans (hs.trans (reports_recordDequeued _ _))

/-- Closing the bridge reports the failures to release what waits in it. -/
lemma reports_closeBridge (h : Hub) : Reports LogLine.TellsOfDrop [] h h.closeBridge := by
  unfold closeBridge
  cases h.bridge with
  | none => exact .refl
  | some b =>
    have hs : Reports LogLine.TellsOfDrop [] h { h with bridge := none } := .same rfl rfl
    exact hs.trans (reports_dropAll b.events _)

end Hub

end ChangeFeed
