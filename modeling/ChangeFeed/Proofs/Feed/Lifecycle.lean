import ChangeFeed.Proofs.Feed.Release
import ChangeFeed.Proofs.Feed.Stage

/-!
# The life of a feed

Whatever is called and in whatever order, a feed goes through its states in one direction, has the
parts that belong to its state, is started once at most, and tells its reader to end once.
-/

namespace ChangeFeed

/-- The parts of a feed are those that belong to its state. -/
structure Feed.Sound {ρ : Type} (f : Feed ρ) : Prop where
  settled : f.state ≠ .stopping
  reader : f.reader.isSome ↔ f.state = .running
  running : f.state = .running → f.assembler.isSome ∧ f.hub.bridge.isSome
  bare : f.state = .new ∨ f.state = .stopped →
    f.reader = none ∧ f.hub.bridge = none ∧ f.assembler = none
  starting : f.state = .starting → f.reader = none ∧ (f.assembler.isSome ↔ f.hub.bridge.isSome)

/-- Whether a reader was to be started. -/
def ReaderCall.isLaunch : ReaderCall → Bool
  | launched _ _ => true
  | _ => false

namespace Stage.Reached

variable {s : Stage}

/-- Which parts there are in which state. -/
lemma parts (hs : s.Reached) :
    s.state ≠ .stopping ∧
    (s.reader = true ↔ s.state = .running) ∧
    (s.state = .running → s.assembler = true ∧ s.bridge = true) ∧
    (s.state = .new ∨ s.state = .stopped →
      s.reader = false ∧ s.bridge = false ∧ s.assembler = false) ∧
    (s.state = .starting → s.reader = false ∧ s.assembler = s.bridge) := by
  cases hs <;> simp

/-- The factory is asked at most once. -/
lemma countP_isLaunch_le (hs : s.Reached) : s.calls.countP ReaderCall.isLaunch ≤ 1 := by
  cases hs with
  | ended he =>
    cases he with
    | @mk joins _ hall =>
      have hj : joins.countP ReaderCall.isLaunch = 0 := by
        rw [List.countP_eq_zero]
        intro call hc
        obtain ⟨span, status, rfl⟩ := hall call hc
        exact Bool.false_ne_true
      simp [List.countP_cons, ReaderCall.isLaunch, hj]
  | new | failed | unused => exact Nat.zero_le _
  | unlaunched | running | forgone => exact Nat.le_refl _

/-- Of a feed that was not stopped nothing was asked, or the factory was asked once. -/
lemma calls_eq (hs : s.Reached) (hn : s.state ≠ .stopped) :
    (s.state ≠ .running ∧ s.calls = []) ∨
      ∃ context, s.calls = [.launched context (s.state = .running)] := by
  cases hs with
  | new | failed => exact .inl ⟨by simp, rfl⟩
  | unlaunched | running => exact .inr ⟨_, rfl⟩
  | unused | forgone | ended _ => exact absurd rfl hn

end Stage.Reached

namespace Feed

variable {ρ : Type} {f : Feed ρ}

/-- A feed at a stage of the list has what its state says. -/
lemma sound_of_reached (hs : f.stage.Reached) : f.Sound := by
  obtain ⟨hn, hr, hrun, hb, hst⟩ := hs.parts
  have absent {α : Type} {o : Option α} (h : o.isSome = false) : o = none :=
    Option.isNone_iff_eq_none.1 (Option.isSome_eq_false_iff.1 h)
  refine ⟨hn, hr, hrun, ?_, ?_⟩
  · intro hstate
    obtain ⟨h1, h2, h3⟩ := hb hstate
    exact ⟨absent h1, absent h2, absent h3⟩
  · intro hstate
    obtain ⟨h1, h2⟩ := hst hstate
    exact ⟨absent h1, Bool.eq_iff_iff.1 h2⟩

/-- A start that is refused changes nothing. -/
lemma start_of_refused {properties : Properties} {state : FeedState}
    (hr : (f.start properties).1 = .error (.alreadyStarted state)) :
    state = f.state ∧ (f.start properties).2 = f := by
  have ht := f.startTrace properties
  generalize (f.start properties).2 = g at ht ⊢
  rw [hr] at ht
  cases ht with
  | refused _ => exact ⟨rfl, rfl⟩

end Feed

namespace Assembler

variable {a : Assembler} {isOpen : Bool} {remaining : Nat} {records : List FeedRecord}
  {own : List Entry}

/-- Processing an event is not refused. -/
lemma ne_notRunning_of_outcome {e : Event} {state : FeedState} :
    a.outcome e ≠ .error (.notRunning state) := by
  unfold outcome
  split
  · simp
  · split <;> simp

/-- No poll that was begun is refused. -/
lemma PollTrace.ne_notRunning {poll : Poll} (ht : a.PollTrace isOpen remaining records own poll)
    (state : FeedState) : poll ≠ .done (.error (.notRunning state)) := by
  induction ht with
  | stopped => simp
  | ends hr =>
    cases hr with
    | failed _ ho =>
      rintro ⟨⟩
      exact ne_notRunning_of_outcome ho
    | returns _ _ => simp
    | fault _ _ => simp
    | waits _ _ => simp
  | goesOn _ _ ih => exact ih

end Assembler

/-- A poll that is refused changes nothing. -/
lemma Feed.poll_of_refused {ρ : Type} {f : Feed ρ} {state : FeedState}
    (hr : f.poll.1 = .done (.error (.notRunning state))) : state = f.state ∧ f.poll.2 = f := by
  rcases f.poll_cases with ⟨-, hp⟩ | ⟨a, -, hp⟩
  · rw [hp] at hr ⊢
    cases hr
    exact ⟨rfl, rfl⟩
  · rw [hp] at hr
    obtain ⟨own, ht, -⟩ := a.adds_poll f.hub
    exact absurd hr (ht.ne_notRunning state)

namespace World

variable {ρ : Type} {w : World ρ}

/-- A feed that was called to start is not new any more. -/
lemma ne_new_of_started [Reader ρ] {properties : Properties} {more : List Call} {g : Feed ρ}
    (hg : (w.run (.start properties :: more)).place = .feed g) : g.state ≠ .new := by
  obtain ⟨f, hf⟩ := feed_of_run hg
  cases stages_run hf hg with
  | @cons _ _ _ t _ hn hr =>
    have ht : t.state ≠ .new := hn.ne_new
    have hle : t.state.rank ≤ g.state.rank := hr.rank_le
    intro hnew
    apply ht
    rw [← FeedState.rank_eq_zero_iff] at hnew ⊢
    omega

/-- What a stop adds to the calls of the reader; no later call adds anything to them. -/
lemma readerCalls_of_stop [Reader ρ] (hw : w.Fresh) {calls : List Call} {f : Feed ρ}
    (hf : (w.run calls).place = .feed f) :
    ∃ ending, (f.state = .running → Ending ending) ∧ (f.state ≠ .running → ending = []) ∧
      ∀ more g, (w.run (calls ++ .stop :: more)).place = .feed g →
        readerCalls g.hub.journal = readerCalls f.hub.journal ++ ending := by
  have hreached := hw.reached hf
  have hreader := (Feed.sound_of_reached hreached).reader
  obtain ⟨own, ht, ha⟩ := f.adds_stop
  refine ⟨readerCalls own, ?_, ?_, ?_⟩
  · intro hrun
    rcases ht.calls with ⟨hr, -⟩ | ⟨-, he⟩
    · rw [hreader.2 hrun] at hr
      cases hr
    · exact he
  · intro hrun
    rcases ht.calls with ⟨-, hn⟩ | ⟨hr, -⟩
    · exact hn
    · exact absurd (hreader.1 hr) hrun
  · intro more g hg
    rw [run_append] at hg
    have hstages := stages_run (place_stop hf) hg
    have heq := hstages.eq_of_stopped (f.next_stop.reached hreached) f.parts_stop.1
    calc readerCalls g.hub.journal
        = readerCalls f.stop.2.hub.journal := congrArg Stage.calls heq
      _ = readerCalls f.hub.journal ++ readerCalls own := ha.calls

/-- The life of a feed, whatever is called and in whatever order. After every call the parts of the
feed are those that belong to its state. Its state only ever goes forward. After one start every
other one is refused. The factory is asked at most once. Before the first stop nothing else is
asked, and the feed is running exactly if the factory gave a reader; a stop of a running feed tells
the reader once to end and then waits for it, and nothing is asked afterwards. A start or a poll
that is refused changes nothing. -/
theorem life_of_feed [Reader ρ] (hw : w.Fresh) :
    (∀ calls f, (w.run calls).place = .feed f → f.Sound) ∧
    (∀ calls more f g, (w.run calls).place = .feed f → (w.run (calls ++ more)).place = .feed g →
      f.state.rank ≤ g.state.rank ∧ (f.state = .stopped → g.state = .stopped)) ∧
    (∀ calls properties more g, (w.run (calls ++ .start properties :: more)).place = .feed g →
      ∀ others, g.start others = (.error (.alreadyStarted g.state), g)) ∧
    (∀ calls f, (w.run calls).place = .feed f →
      (readerCalls f.hub.journal).countP ReaderCall.isLaunch ≤ 1) ∧
    (∀ calls f, .stop ∉ calls → (w.run calls).place = .feed f →
      ((f.state ≠ .running ∧ readerCalls f.hub.journal = []) ∨
        ∃ context, readerCalls f.hub.journal = [.launched context (f.state = .running)]) ∧
      ∃ ending, (f.state = .running → Ending ending) ∧ (f.state ≠ .running → ending = []) ∧
        ∀ more g, (w.run (calls ++ .stop :: more)).place = .feed g →
          readerCalls g.hub.journal = readerCalls f.hub.journal ++ ending) ∧
    (∀ f : Feed ρ,
      (∀ properties state, (f.start properties).1 = .error (.alreadyStarted state) →
        state = f.state ∧ (f.start properties).2 = f) ∧
      ∀ state, f.poll.1 = .done (.error (.notRunning state)) →
        state = f.state ∧ f.poll.2 = f) := by
  refine ⟨?_, ?_, ?_, ?_, ?_, ?_⟩
  · intro calls f hf
    exact Feed.sound_of_reached (hw.reached hf)
  · intro calls more f g hf hg
    rw [run_append] at hg
    have hstages := stages_run hf hg
    refine ⟨hstages.rank_le, ?_⟩
    intro hs
    have heq := hstages.eq_of_stopped (hw.reached hf) hs
    exact (congrArg Stage.state heq).trans hs
  · intro calls properties more g hg others
    rw [run_append] at hg
    exact Feed.start_of_ne_new others (ne_new_of_started hg)
  · intro calls f hf
    exact (hw.reached hf).countP_isLaunch_le
  · intro calls f hc hf
    obtain ⟨k, hk⟩ := feed_of_run hf
    have hk' : k.state ≠ .stopped := by
      cases hw with
      | feed _ _ _ =>
        cases hk
        exact nofun
      | bridge _ _ _ => cases hk
    have hn := (stages_run hk hf).ne_stopped hc hk'
    exact ⟨(hw.reached hf).calls_eq hn, readerCalls_of_stop hw hf⟩
  · intro f
    refine ⟨?_, ?_⟩
    · intro properties state hr
      exact Feed.start_of_refused hr
    · intro state hr
      exact Feed.poll_of_refused hr

/-- The state of the feed, if there is one. -/
def state? (w : World ρ) : Option FeedState :=
  match w.place with
  | .feed f => some f.state
  | .bridge _ => none

/-- The state of a world is that of its feed. -/
lemma state?_eq_some {state : FeedState} (hs : w.state? = some state) :
    ∃ f, w.place = .feed f ∧ f.state = state := by
  obtain ⟨place, converted⟩ := w
  cases place with
  | feed f => exact ⟨f, rfl, Option.some.inj hs⟩
  | bridge h => cases hs

open Doubles

/-- A feed that is started twice and stopped twice asks its factory for one reader, and tells it
once to end. -/
theorem life_of_feed_idle :
    idle.Fresh ∧ ∃ g, (idle.run
        [.start (properties []), .stop, .start (properties []), .stop]).place = .feed g ∧
      g.state = .stopped ∧
      ∃ context ending, Ending ending ∧
        readerCalls g.hub.journal = .launched context true :: ending := by
  have hw : idle.Fresh := .feed rfl rfl rfl
  have hrun : (idle.run [.start (properties [])]).state? = some .running := by decide +kernel
  have hend : (idle.run
      [.start (properties []), .stop, .start (properties []), .stop]).state? = some .stopped := by
    decide +kernel
  obtain ⟨f, hf, hfs⟩ := state?_eq_some hrun
  obtain ⟨g, hg, hgs⟩ := state?_eq_some hend
  obtain ⟨-, -, -, -, hreader, -⟩ := life_of_feed hw
  obtain ⟨hcalls, ending, he, -, hlater⟩ := hreader [.start (properties [])] f (by simp) hf
  obtain ⟨context, hcontext⟩ := hcalls.resolve_left fun hn => hn.1 hfs
  refine ⟨hw, g, hg, hgs, context, ending, he hfs, ?_⟩
  rw [hlater [.start (properties []), .stop] g hg, hcontext, hfs]
  rfl

end World

end ChangeFeed
