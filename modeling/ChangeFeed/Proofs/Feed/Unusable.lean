import ChangeFeed.Proofs.Batch.Acknowledge
import ChangeFeed.Proofs.Feed.Lifecycle

/-!
# After a failed start

A feed whose start failed is polled and started in vain, before it is stopped and afterwards, and
takes nothing from its bridge. What may still be done with it depends on how far the start got: an
assembler is there only if it was the reader that could not be started, and then, until the feed is
stopped, events that are given to it are converted and acknowledged. `Idles` is what one call, and a
sequence of calls, makes of a feed that has no reader.
-/

namespace ChangeFeed

/-- Whether a filter, a source handler or an acknowledgement was made use of. -/
def Entry.isUse : Entry → Bool
  | filtered _ _ | handled _ _ _ | acknowledged _ => true
  | _ => false

/-- The entry, if it tells of such a use. -/
def Entry.use? (x : Entry) : Option Entry :=
  if x.isUse then some x else none

/-- What filters, source handlers and acknowledgements were made use of, in order. -/
def uses (journal : List Entry) : List Entry := journal.filterMap Entry.use?

/-- What was used is used first or later. -/
lemma uses_append (as bs : List Entry) : uses (as ++ bs) = uses as ++ uses bs :=
  List.filterMap_append

/-- No other thread uses a collaborator of the assembler. -/
lemma Entry.ByHolder.use? {held : List Event} {x : Entry} (hx : x.ByHolder held) :
    x.use? = none := by
  cases x <;> first | rfl | cases hx

/-- Clearing up uses no collaborator. -/
lemma uses_of_isClearing {own : List Entry} (h : ∀ x ∈ own, x.isClearing) : uses own = [] := by
  refine List.filterMap_eq_nil_iff.2 fun x hx => ?_
  have hc := h x hx
  cases x <;> first | rfl | cases hc

/-- Running an event asks the filter if there is one, and else the source handler. -/
lemma Pipeline.uses_inquiries (p : Pipeline) (e : Event) : uses (p.inquiries e) ≠ [] := by
  unfold inquiries passes
  cases p.filter with
  | none => exact List.cons_ne_nil _ _
  | some f => exact List.cons_ne_nil _ _

/-- Processing an event uses the source handler or the filter. -/
lemma Assembler.Block.uses_ne_nil {a : Assembler} {isOpen : Bool} {e : Event} {own : List Entry}
    (hb : a.Block isOpen e own) : uses own ≠ [] := by
  have hi := a.pipeline.uses_inquiries e
  cases hb with
  | failed _ =>
    rw [uses_append]
    exact fun hn => hi (List.append_eq_nil_iff.1 hn).1
  | converted _ _ =>
    rw [uses_append, uses_append]
    exact fun hn => hi (List.append_eq_nil_iff.1 (List.append_eq_nil_iff.1 hn).1).1

/-- Whether it was the reader that could not be started. -/
def FeedError.isReaderStart : FeedError → Bool
  | readerStart _ => true
  | _ => false

namespace Call

/-- Whether the feed is stopped. -/
def isStop : Call → Bool
  | stop => true
  | _ => false

/-- Whether the feed is given an event to convert. -/
def isConvert : Call → Bool
  | convert _ => true
  | _ => false

end Call

/-- Whether a feed is given an event to convert before it is stopped. -/
def convertsUnstopped : List Call → Bool
  | [] => false
  | c :: rest => c.isConvert || (!c.isStop && convertsUnstopped rest)

namespace Feed

variable {ρ : Type}

/-- A feed that was started, and has no reader. -/
structure Idle (f : Feed ρ) : Prop where
  started : f.state ≠ .new
  halted : f.state ≠ .running
  reader : f.reader = none

/-- What became of an idle feed. Unless it was stopped it takes no event from its bridge and stays
as it was, and collaborators are made use of exactly if it was given events to convert and has an
assembler. -/
structure Idles (stopped converts : Bool) (f g : Feed ρ) : Prop where
  idle : g.Idle
  same : stopped = false → g.state = f.state ∧ g.assembler = f.assembler
  ended : stopped = true → g.state = .stopped ∧ g.assembler = none
  adds : ∃ own, Hub.Adds own f.hub g.hub ∧
    (uses own = [] ↔ ¬ (converts = true ∧ f.assembler.isSome = true)) ∧
    (stopped = false → taken own = [])

variable {f g k : Feed ρ}

namespace Idles

/-- A feed that stays as it is goes on idling. -/
lemma refl (hf : f.Idle) : f.Idles false false f :=
  ⟨hf, fun _ => ⟨rfl, rfl⟩, nofun, [], .refl, by simp [uses], fun _ => rfl⟩

/-- What is done to the hub only, without taking or using anything. -/
lemma quiet {h : Hub} {own : List Entry} (hf : f.Idle) (ha : Hub.Adds own f.hub h)
    (hu : uses own = []) (ht : taken own = []) : f.Idles false false { f with hub := h } :=
  ⟨⟨hf.started, hf.halted, hf.reader⟩, fun _ => ⟨rfl, rfl⟩, nofun, own, ha, by simp [hu],
    fun _ => ht⟩

/-- What idles in two parts idles as a whole. -/
lemma trans {s c s' c' : Bool} (hg : f.Idles s c g) (hk : g.Idles s' c' k) :
    f.Idles (s || s') (c || (!s && c')) k := by
  obtain ⟨own, ha, hu, ht⟩ := hg.adds
  obtain ⟨more, hb, hv, hw⟩ := hk.adds
  refine ⟨hk.idle, ?_, ?_, own ++ more, ha.trans hb, ?_, ?_⟩
  · intro hs
    obtain ⟨hs, hs'⟩ := Bool.or_eq_false_iff.1 hs
    exact ⟨(hk.same hs').1.trans (hg.same hs).1, (hk.same hs').2.trans (hg.same hs).2⟩
  · intro hs
    cases s' with
    | true => exact hk.ended rfl
    | false =>
      -- stopped before, and left so
      obtain ⟨hgs, hga⟩ := hg.ended (by simpa using hs)
      exact ⟨(hk.same rfl).1.trans hgs, (hk.same rfl).2.trans hga⟩
  · rw [uses_append, List.append_eq_nil_iff, hu, hv]
    cases s with
    | true => simp [(hg.ended rfl).2]
    | false =>
      rw [(hg.same rfl).2]
      cases c <;> cases c' <;> simp
  · intro hs
    obtain ⟨hs, hs'⟩ := Bool.or_eq_false_iff.1 hs
    rw [taken_append, ht hs, hw hs']
    rfl

end Idles

/-- A feed that is not running refuses to be polled. -/
lemma poll_of_ne_running (hs : f.state ≠ .running) :
    f.poll = (.done (.error (.notRunning f.state)), f) := by
  have hp : f.polling? = none := by simp [polling?, hs]
  rw [poll, hp]

/-- Converting an event makes use of collaborators if there is an assembler. -/
lemma idles_convert (hf : f.Idle) (e : Event) : f.Idles false true (f.convert e).2 := by
  obtain ⟨hn, hc⟩ | ⟨a, hs, hc⟩ := f.convert_cases e
  · have hu : uses (e.message.parting (.droppedFailure f.hub.redaction)) = [] :=
      uses_of_isClearing fun _ => Message.isClearing_of_mem_parting
    rw [hc]
    refine ⟨⟨hf.started, hf.halted, hf.reader⟩, fun _ => ⟨rfl, rfl⟩, nofun, _,
      Hub.adds_drop e.message f.hub, ?_, ?_⟩
    · simp [hu, hn]
    · exact fun _ => List.filterMap_eq_nil_iff.2 fun _ hx =>
        Entry.taken?_of_isEffect (Message.isEffect_of_mem_parting hx)
  · obtain ⟨own, hb, ha⟩ := a.adds_process e f.hub
    rw [hc]
    refine ⟨⟨hf.started, hf.halted, hf.reader⟩, fun _ => ⟨rfl, rfl⟩, nofun, own, ha, ?_, ?_⟩
    · simp [hb.uses_ne_nil, hs]
    · exact fun _ => hb.taken_eq

/-- A stop leaves an idle feed idle, and without an assembler. -/
lemma idles_stop [Reader ρ] (hf : f.Idle) : f.Idles true false f.stop.2 := by
  obtain ⟨hs, hr, ha, -⟩ := f.parts_stop
  obtain ⟨own, ht, hadds⟩ := f.adds_stop
  have hu : uses own = [] := by
    cases ht with
    | idle _ hc => exact uses_of_isClearing fun _ => hc.isClearing
    | running hn _ _ =>
      rw [hf.reader] at hn
      cases hn
  have hidle : f.stop.2.Idle := ⟨by simp [hs], by simp [hs], hr⟩
  exact ⟨hidle, nofun, fun _ => ⟨hs, ha⟩, own, hadds, by simp [hu], nofun⟩

/-- What a start that fails leaves behind. -/
lemma start_failed {context : FeedContext ρ} {h : Hub} {properties : Properties}
    {cause : FeedError} (hf : (new context h).start properties = (.error cause, f)) :
    f.Idle ∧ f.state = .starting ∧ f.assembler.isSome = cause.isReaderStart ∧
      ∃ own, Hub.Adds own h f.hub ∧ uses own = [] ∧ taken own = [] := by
  have ht := (new context h).startTrace properties
  rw [hf] at ht
  cases ht with
  | refused hn => exact absurd rfl hn
  | unread _ ha _ => exact ⟨⟨by simp, by simp, rfl⟩, rfl, rfl, _, ha, rfl, rfl⟩
  | undecoded _ ha _ => exact ⟨⟨by simp, by simp, rfl⟩, rfl, rfl, _, ha, rfl, rfl⟩
  | unlaunched _ ha _ _ => exact ⟨⟨by simp, by simp, rfl⟩, rfl, rfl, _, ha, rfl, rfl⟩

end Feed

namespace World

variable {ρ : Type} {w : World ρ} {f g : Feed ρ}

/-- What a call makes of an idle feed. -/
lemma idles_step [Reader ρ] {c : Call} (hi : f.Idle) (hf : w.place = .feed f)
    (hg : (w.step c).place = .feed g) : f.Idles c.isStop c.isConvert g := by
  obtain ⟨place, converted⟩ := w
  obtain rfl : place = .feed f := hf
  cases c with
  | start properties =>
    cases hg
    rw [Feed.start_of_ne_new properties hi.started]
    exact .refl hi
  | poll =>
    cases hg
    rw [Feed.poll_of_ne_running hi.halted]
    exact .refl hi
  | convert e =>
    cases hg
    exact Feed.idles_convert hi e
  | stop =>
    cases hg
    exact Feed.idles_stop hi
  | signal =>
    cases hg
    exact .quiet hi (Hub.adds_setRunning false f.hub) rfl rfl
  | others ms =>
    cases hg
    exact .quiet hi (Hub.adds_moves ms f.hub) rfl rfl
  | letGo => cases hg

/-- Calls leave an idle feed idle. -/
lemma idles_run [Reader ρ] {calls : List Call} (hi : f.Idle) (hf : w.place = .feed f)
    (hg : (w.run calls).place = .feed g) :
    f.Idles (calls.any Call.isStop) (convertsUnstopped calls) g := by
  induction calls generalizing w f with
  | nil =>
    cases hf.symm.trans hg
    exact .refl hi
  | cons c rest ih =>
    obtain ⟨k, hk⟩ := feed_of_run (w := w.step c) hg
    have hc := idles_step hi hf hk
    rw [List.any_cons]
    exact hc.trans (ih hc.idle hk hg)

/-- What is left of a feed after it was called as listed, its start having failed at a hub. -/
structure Spent (h : Hub) (cause : FeedError) (calls : List Call) (f : Feed ρ) : Prop where
  state : f.state = if calls.any Call.isStop then .stopped else .starting
  polls : f.poll = (.done (.error (.notRunning f.state)), f)
  starts : ∀ properties, f.start properties = (.error (.alreadyStarted f.state), f)
  /-- A conversion is refused, and the event let go of, unless it was the reader that could not be
  started and the feed was not stopped since. -/
  converts : ∀ e, f.convert e = (.error (.notRunning f.state), f.withHub (·.drop e.message)) ↔
    ¬ (cause.isReaderStart = true ∧ calls.any Call.isStop = false)
  /-- Otherwise the event is processed as it would be in a poll. -/
  processes : cause.isReaderStart = true → calls.any Call.isStop = false →
    ∃ a, f.assembler = some a ∧
      ∀ e, f.convert e = ((a.process e f.hub).1, { f with hub := (a.process e f.hub).2 })
  /-- No filter, source handler or acknowledgement was made use of, unless there was such a
  conversion. -/
  unused : uses (h.since f.hub) = [] ↔
    ¬ (cause.isReaderStart = true ∧ convertsUnstopped calls = true)
  /-- Nothing is taken from the bridge but by a stop. -/
  kept : calls.any Call.isStop = false → taken (h.since f.hub) = []

/-- However a start failed and whatever is called afterwards, every poll and every further start is
refused, and nothing is taken from the bridge before a stop. Conversions are refused too, and
nothing is made use of, just unless it was the reader that could not be started: then conversions
are refused once the feed was stopped, and no sooner. -/
theorem unusable_after_failed_start [Reader ρ] {context : FeedContext ρ} {h : Hub}
    {properties : Properties} {cause : FeedError} {f₀ f : Feed ρ} {converted : List Event}
    {calls : List Call} (h₀ : (Feed.new context h).start properties = (.error cause, f₀))
    (hf : (World.run calls ⟨.feed f₀, converted⟩).place = .feed f) : Spent h cause calls f := by
  obtain ⟨hidle, hstate, hasm, own, ha, hu, ht⟩ := Feed.start_failed h₀
  have hi : f₀.Idles (calls.any Call.isStop) (convertsUnstopped calls) f := idles_run hidle rfl hf
  obtain ⟨more, hb, hv, hw⟩ := hi.adds
  have hsince : Hub.Adds (own ++ more) h f.hub := ha.trans hb
  have hnone (hs : ¬ (cause.isReaderStart = true ∧ calls.any Call.isStop = false)) :
      f.assembler = none := by
    cases hstop : calls.any Call.isStop with
    | true => exact (hi.ended hstop).2
    | false =>
      rw [(hi.same hstop).2, ← Option.isNone_iff_eq_none, ← Option.isSome_eq_false_iff, hasm]
      simpa [hstop] using hs
  have hsome (hr : cause.isReaderStart = true) (hs : calls.any Call.isStop = false) :
      ∃ a, f.assembler = some a := by
    rw [← Option.isSome_iff_exists, (hi.same hs).2, hasm, hr]
  refine
    { state := ?_, polls := Feed.poll_of_ne_running hi.idle.halted
      starts := fun properties => Feed.start_of_ne_new properties hi.idle.started
      converts := ?_, processes := ?_, unused := ?_, kept := ?_ }
  · cases hstop : calls.any Call.isStop with
    | true => exact (hi.ended hstop).1
    | false => exact (hi.same hstop).1.trans hstate
  · intro e
    refine ⟨?_, ?_⟩
    · rintro hc ⟨hr, hs⟩
      obtain ⟨a, hsa⟩ := hsome hr hs
      have hp : (f.convert e).1 = a.outcome e := by
        rw [Feed.convert, hsa]
        exact a.process_fst e f.hub
      rw [hc] at hp
      exact Assembler.ne_notRunning_of_outcome hp.symm
    · intro hs
      rw [Feed.convert, hnone hs]
  · intro hr hs
    obtain ⟨a, hsa⟩ := hsome hr hs
    refine ⟨a, hsa, fun e => ?_⟩
    rw [Feed.convert, hsa]
  · have hn : uses (h.since f.hub) = uses (own ++ more) :=
      hsince.filterMap_since fun _ _ hx => hx.use?
    rw [hn, uses_append, hu, List.nil_append, hv, hasm, and_comm]
  · intro hs
    rw [taken_since hsince, taken_append, ht, hw hs]
    rfl

open Doubles

/-- A feed whose reader cannot be started. -/
def unreachable : Feed StandIn :=
  .new ⟨fun _ => [], failingFactory, .builtin, defaultJoinTimeout⟩ (Hub.idle .none)

/-- Whether a start failed because the reader could not be started. -/
def lacksReader (r : Except FeedError Unit) : Bool :=
  match r with
  | .ok _ => false
  | .error cause => cause.isReaderStart

/-- A start that lacks a reader fails for that reason. -/
lemma eq_error_of_lacksReader {α : Type} {r : Except FeedError Unit × α} (h : lacksReader r.1) :
    ∃ cause, r = (.error cause, r.2) ∧ cause.isReaderStart := by
  obtain ⟨result, x⟩ := r
  cases result with
  | ok u => cases h
  | error cause => exact ⟨cause, rfl, h⟩

/-- The start of the unreachable feed lacks a reader. -/
lemma lacksReader_unreachable : lacksReader (unreachable.start (properties [])).1 := by
  decide +kernel

/-- What may be tried with a feed whose start failed. -/
def persistent : List Call :=
  [.poll, .start (properties []), .others [.enqueue (mutation 0 1)], .convert (mutation 0 2), .stop,
    .convert (mutation 0 3)]

/-- The feed that could not be reached converted an event before it was stopped, and converts none
any more. -/
theorem unusable_after_failed_start_unreachable :
    ∃ cause f₀ f, unreachable.start (properties []) = (.error cause, f₀) ∧
      (run persistent ⟨.feed f₀, []⟩).place = .feed f ∧ f.state = .stopped ∧
      uses ((Hub.idle .none).since f.hub) ≠ [] ∧
      ∀ e, f.convert e = (.error (.notRunning .stopped), f.withHub (·.drop e.message)) := by
  have hends : (run persistent ⟨.feed (unreachable.start (properties [])).2, []⟩).state? =
      some .stopped := by
    decide +kernel
  obtain ⟨cause, h₀, hr⟩ := eq_error_of_lacksReader lacksReader_unreachable
  obtain ⟨f, hf, hs⟩ := state?_eq_some hends
  have hspent := unusable_after_failed_start h₀ hf
  refine ⟨cause, _, f, h₀, hf, hs, ?_, ?_⟩
  · rw [Ne, hspent.unused, not_not]
    exact ⟨hr, rfl⟩
  · intro e
    rw [(hspent.converts e).2 (by simp [persistent, Call.isStop]), hs]

/-- A failed start does not leave every feed unusable: the feed that could not be reached converts
the events that it is given. -/
theorem failed_start_converts :
    ¬ ∀ (properties : Properties) (cause : FeedError) (f₀ : Feed StandIn),
      unreachable.start properties = (.error cause, f₀) →
        ∀ e, f₀.convert e = (.error (.notRunning f₀.state), f₀.withHub (·.drop e.message)) := by
  intro hall
  have hok : ((unreachable.start (properties [])).2.convert (mutation 0 1)).1.isOk := by
    decide +kernel
  obtain ⟨cause, h₀, -⟩ := eq_error_of_lacksReader lacksReader_unreachable
  rw [hall (properties []) cause _ h₀] at hok
  cases hok

end World

end ChangeFeed
