import ChangeFeed.Proofs.Feed.Trace
import ChangeFeed.Proofs.Feed.World

/-!
# Stages of a feed

The life of a feed is told by its stage: its state, which of its parts are there, and what was asked
of the factory and of the reader so far. `Next` is what a call makes of a stage, and `Reached` lists
the stages that there are. That every call of a feed is a step of this machine is shown once, from
the traces of calls; everything else about the life of a feed is shown for the machine.
-/

namespace ChangeFeed

/-- Something asked of the reader factory or of a reader. -/
inductive ReaderCall where
  | launched (context : ReaderContext) (succeeded : Bool)
  | shutDown
  | joined (span : Span) (status : JoinStatus)
deriving DecidableEq

namespace Entry

/-- What was asked of the reader factory or of a reader. -/
def readerCall? : Entry → Option ReaderCall
  | launched context succeeded => some (.launched context succeeded)
  | shutDown => some .shutDown
  | joined span status => some (.joined span status)
  | _ => none

/-- Traffic asks nothing of a reader. -/
lemma readerCall?_of_isTraffic {x : Entry} (hx : x.isTraffic) : x.readerCall? = none := by
  cases x <;> first | rfl | cases hx

/-- No other thread calls the reader in place of a feed. -/
lemma ByHolder.readerCall? {held : List Event} {x : Entry} (hx : x.ByHolder held) :
    x.readerCall? = none := by
  cases x <;> first | rfl | cases hx

end Entry

/-- What was asked of the reader factory and of the reader, in order. -/
def readerCalls (journal : List Entry) : List ReaderCall := journal.filterMap Entry.readerCall?

/-- What is asked of readers is asked first or later. -/
@[simp] lemma readerCalls_append (as bs : List Entry) :
    readerCalls (as ++ bs) = readerCalls as ++ readerCalls bs :=
  List.filterMap_append

/-- Where there is only traffic, nothing is asked of a reader. -/
lemma readerCalls_of_isTraffic {own : List Entry} (h : ∀ x ∈ own, x.isTraffic) :
    readerCalls own = [] :=
  List.filterMap_eq_nil_iff.2 fun x hx => Entry.readerCall?_of_isTraffic (h x hx)

/-- Clearing up asks nothing of a reader. -/
lemma readerCalls_of_isClearing {own : List Entry} (h : ∀ x ∈ own, x.isClearing) :
    readerCalls own = [] :=
  readerCalls_of_isTraffic fun x hx => Entry.isTraffic_of_isClearing (h x hx)

/-- What is asked of a reader is among what a thread adds itself. -/
lemma readerCalls_since {h k : Hub} {own : List Entry} (ha : Hub.Adds own h k) :
    readerCalls (h.since k) = readerCalls own :=
  ha.filterMap_since fun _ _ hx => hx.readerCall?

/-- The calls of the journal are followed by those that are added. -/
lemma Hub.Adds.calls {h k : Hub} {own : List Entry} (ha : Hub.Adds own h k) :
    readerCalls k.journal = readerCalls h.journal ++ readerCalls own := by
  rw [ha.woven.1, readerCalls_append]
  exact congrArg (readerCalls h.journal ++ ·) (ha.filterMap_since fun _ _ hx => hx.readerCall?)

/-- What asking a reader to end comes to: it is told so once, and waited for. -/
inductive Ending : List ReaderCall → Prop where
  | mk {joins} :
    joins ≠ [] →
    (∀ call ∈ joins, ∃ span status, call = ReaderCall.joined span status) →
    Ending (.shutDown :: joins)

section

variable {own : List Entry}

/-- A reader that is waited for is asked nothing else. -/
lemma JoinTrace.calls (ht : JoinTrace own) :
    readerCalls own ≠ [] ∧ ∀ call ∈ readerCalls own, ∃ span status, call = .joined span status := by
  induction ht with
  | @last cleared slice status hc =>
    have hn := readerCalls_of_isClearing fun _ => hc.isClearing
    have hj : readerCalls [.joined slice status] = [.joined slice status] := rfl
    rw [readerCalls_append, hn, hj]
    simp
  | @again cleared slice status rest hc _ ih =>
    have hn := readerCalls_of_isClearing fun _ => hc.isClearing
    have hj : readerCalls (.joined slice status :: rest) =
      .joined slice status :: readerCalls rest := rfl
    rw [readerCalls_append, hn, hj]
    simpa using ih.2

/-- Ending a reader asks it to end, and then joins it. -/
lemma EndTrace.calls (ht : EndTrace own) : Ending (readerCalls own) := by
  cases ht with
  | @ended joins hj =>
    obtain ⟨hne, hall⟩ := hj.calls
    exact .mk hne hall
  | @stubborn joins timeout hj =>
    obtain ⟨hne, hall⟩ := hj.calls
    have hl : readerCalls [.logged (Feed.stubbornLine timeout)] = [] := rfl
    rw [readerCalls_append, hl, List.append_nil]
    exact .mk hne hall

/-- A stop ends the reader if there is one, and else asks nothing. -/
lemma StopTrace.calls {hasReader : Bool} (ht : StopTrace hasReader own) :
    (hasReader = false ∧ readerCalls own = []) ∨ (hasReader = true ∧ Ending (readerCalls own)) := by
  cases ht with
  | idle hr hc => exact .inl ⟨hr, readerCalls_of_isClearing fun _ => hc.isClearing⟩
  | running hr he hc =>
    have hn := readerCalls_of_isClearing fun _ => hc.isClearing
    rw [readerCalls_append, hn, List.append_nil]
    exact .inr ⟨hr, he.calls⟩

end

/-- What of a feed its life is about: its state, which of its parts are there, and what was asked
of the factory and of the reader so far. -/
structure Stage where
  state : FeedState
  reader : Bool
  assembler : Bool
  bridge : Bool
  calls : List ReaderCall

/-- The stage of a feed. -/
def Feed.stage {ρ : Type} (f : Feed ρ) : Stage :=
  ⟨f.state, f.reader.isSome, f.assembler.isSome, f.hub.bridge.isSome, readerCalls f.hub.journal⟩

namespace Stage

/-- What a call makes of a stage. -/
inductive Next : Call → Stage → Stage → Prop where
  | stays {c s} :
    c ≠ .stop →
    (∀ properties, c = .start properties → s.state ≠ .new) →
    Next c s s
  | failed {properties s} :
    s.state = .new →
    Next (.start properties) s { s with state := .starting }
  | unlaunched {properties s context} :
    s.state = .new →
    Next (.start properties) s
      { s with
        state := .starting, assembler := true, bridge := true
        calls := s.calls ++ [.launched context false] }
  | launched {properties s context} :
    s.state = .new →
    Next (.start properties) s ⟨.running, true, true, true, s.calls ++ [.launched context true]⟩
  | idle {s} :
    s.reader = false →
    Next .stop s ⟨.stopped, false, false, false, s.calls⟩
  | ended {s ending} :
    s.reader = true →
    Ending ending →
    Next .stop s ⟨.stopped, false, false, false, s.calls ++ ending⟩

/-- The stages of a life that began with a new feed. -/
inductive Reached : Stage → Prop where
  | new : Reached ⟨.new, false, false, false, []⟩
  | failed : Reached ⟨.starting, false, false, false, []⟩
  | unlaunched {context} : Reached ⟨.starting, false, true, true, [.launched context false]⟩
  | running {context} : Reached ⟨.running, true, true, true, [.launched context true]⟩
  | unused : Reached ⟨.stopped, false, false, false, []⟩
  | forgone {context} : Reached ⟨.stopped, false, false, false, [.launched context false]⟩
  | ended {context ending} :
    Ending ending →
    Reached ⟨.stopped, false, false, false, .launched context true :: ending⟩

variable {c : Call} {s t : Stage}

/-- A call leads from a stage of the list to a stage of the list. -/
lemma Next.reached (hn : Next c s t) (hs : Reached s) : Reached t := by
  cases hn with
  | stays _ _ => exact hs
  | failed hnew =>
    cases hs with
    | new => exact .failed
    | _ => cases hnew
  | unlaunched hnew =>
    cases hs with
    | new => exact .unlaunched
    | _ => cases hnew
  | launched hnew =>
    cases hs with
    | new => exact .running
    | _ => cases hnew
  | idle hr =>
    cases hs with
    | new => exact .unused
    | failed => exact .unused
    | unlaunched => exact .forgone
    | running => cases hr
    | unused => exact .unused
    | forgone => exact .forgone
    | ended he => exact .ended he
  | ended hr he =>
    cases hs with
    | running => exact .ended he
    | _ => cases hr

/-- What calls make of a stage one after the other. -/
inductive Run : List Call → Stage → Stage → Prop where
  | nil {s : Stage} : Run [] s s
  | cons {c calls} {s t u : Stage} :
    Next c s t →
    Run calls t u →
    Run (c :: calls) s u

/-- Calls lead from a stage of the list to a stage of the list. -/
lemma Run.reached {calls : List Call} (hr : Run calls s t) (hs : Reached s) : Reached t := by
  induction hr with
  | nil => exact hs
  | cons hn _ ih => exact ih (hn.reached hs)

end Stage

/-- How far a state is along the life of a feed. -/
def FeedState.rank : FeedState → Nat
  | new => 0
  | starting => 1
  | running => 2
  | stopping => 3
  | stopped => 4

/-- Only a new feed has the lowest rank. -/
lemma FeedState.rank_eq_zero_iff {state : FeedState} : state.rank = 0 ↔ state = .new := by
  cases state <;> simp [rank]

/-- No state is beyond that of a stopped feed. -/
lemma FeedState.rank_le_stopped (state : FeedState) : state.rank ≤ FeedState.stopped.rank := by
  cases state <;> decide

namespace Stage

variable {c : Call} {calls : List Call} {s t : Stage}

/-- No call leads back in the life of a feed. -/
lemma Next.rank_le (hn : Next c s t) : s.state.rank ≤ t.state.rank := by
  cases hn with
  | stays _ _ => exact Nat.le_refl _
  | idle _ => exact s.state.rank_le_stopped
  | ended _ _ => exact s.state.rank_le_stopped
  | failed hnew => exact hnew ▸ Nat.zero_le _
  | unlaunched hnew => exact hnew ▸ Nat.zero_le _
  | launched hnew => exact hnew ▸ Nat.zero_le _

/-- Calls do not lead back in the life of a feed. -/
lemma Run.rank_le (hr : Run calls s t) : s.state.rank ≤ t.state.rank := by
  induction hr with
  | nil => exact Nat.le_refl _
  | cons hn _ ih => exact Nat.le_trans hn.rank_le ih

/-- A stopped feed stays stopped. -/
lemma Next.stopped (hn : Next c s t) (hs : s.state = .stopped) : t.state = .stopped := by
  cases hn with
  | stays _ _ => exact hs
  | idle _ => rfl
  | ended _ _ => rfl
  | failed hnew => cases hs.symm.trans hnew
  | unlaunched hnew => cases hs.symm.trans hnew
  | launched hnew => cases hs.symm.trans hnew

/-- No call leads out of the stage of a stopped feed. -/
lemma Next.eq_of_stopped (hn : Next c s t) (hs : Reached s) (hst : s.state = .stopped) : t = s := by
  cases hn with
  | stays _ _ => rfl
  | idle _ =>
    cases hs with
    | unused | forgone | ended _ => rfl
    | _ => cases hst
  | ended hr _ =>
    cases hs with
    | running => cases hst
    | _ => cases hr
  | failed hnew => exact absurd (hst.symm.trans hnew) (by decide)
  | unlaunched hnew => exact absurd (hst.symm.trans hnew) (by decide)
  | launched hnew => exact absurd (hst.symm.trans hnew) (by decide)

/-- Calls do not lead out of the stage of a stopped feed. -/
lemma Run.eq_of_stopped (hr : Run calls s t) (hs : Reached s) (hst : s.state = .stopped) :
    t = s := by
  induction hr with
  | nil => rfl
  | cons hn _ ih =>
    obtain rfl := hn.eq_of_stopped hs hst
    exact ih hs hst

/-- A start leaves no feed new. -/
lemma Next.ne_new {properties : Properties} (hn : Next (.start properties) s t) :
    t.state ≠ .new := by
  cases hn with
  | stays _ hs => exact hs properties rfl
  | failed _ => simp
  | unlaunched _ => simp
  | launched _ => simp

/-- A feed is not stopped unless it is called to stop. -/
lemma Run.ne_stopped (hr : Run calls s t) (hc : .stop ∉ calls) (hs : s.state ≠ .stopped) :
    t.state ≠ .stopped := by
  induction hr with
  | nil => exact hs
  | cons hn _ ih =>
    rw [List.mem_cons, not_or] at hc
    apply ih hc.2
    cases hn with
    | stays _ _ => exact hs
    | idle _ => exact absurd rfl hc.1
    | ended _ _ => exact absurd rfl hc.1
    | failed _ => simp
    | unlaunched _ => simp
    | launched _ => simp

end Stage

namespace Feed

variable {ρ : Type}

/-- What leaves a feed as it is but for its hub, and asks nothing of the reader, leaves its
stage. -/
lemma stage_withHub {f : Feed ρ} {k : Hub} {own : List Entry} (ha : Hub.Adds own f.hub k)
    (ho : readerCalls own = []) (hb : k.bridge.isSome = f.hub.bridge.isSome) :
    stage { f with hub := k } = f.stage := by
  unfold stage
  rw [ha.calls, ho, List.append_nil, hb]

/-- A start that fails before the reader is asked for leaves all but the state. -/
lemma next_failed {f : Feed ρ} {k : Hub} {own : List Entry} {properties : Properties}
    (hn : f.state = .new) (ha : Hub.Adds own f.hub k) (ho : readerCalls own = [])
    (hd : f.hub.Dequeues [] k) :
    Stage.Next (.start properties) f.stage (stage { f with state := .starting, hub := k }) := by
  show Stage.Next _ f.stage { stage { f with hub := k } with state := .starting }
  rw [stage_withHub ha ho hd.isSome_bridge]
  exact .failed hn

/-- A start is a step of the machine. -/
lemma next_start (f : Feed ρ) (properties : Properties) :
    Stage.Next (.start properties) f.stage (f.start properties).2.stage := by
  have ht := f.startTrace properties
  generalize (f.start properties).2 = g at ht
  generalize (f.start properties).1 = r at ht
  cases ht with
  | refused hs => exact .stays (by simp) fun _ _ => hs
  | unread hn ha hd => exact next_failed hn ha rfl hd
  | undecoded hn ha hd => exact next_failed hn ha rfl hd
  | @unlaunched cause asked context a k hn ha hb _ =>
    have hc : readerCalls k.journal = readerCalls f.hub.journal ++ [.launched context false] :=
      ha.calls
    unfold stage
    rw [hb, hc]
    exact .unlaunched hn
  | @launched asked context a reader k hn ha hb _ =>
    have hc : readerCalls k.journal = readerCalls f.hub.journal ++ [.launched context true] :=
      ha.calls
    unfold stage
    rw [hb, hc]
    exact .launched hn

/-- A poll leaves the stage. -/
lemma stage_poll (f : Feed ρ) : f.poll.2.stage = f.stage := by
  rcases f.poll_cases with ⟨-, hp⟩ | ⟨a, -, hp⟩
  · rw [hp]
  · rw [hp]
    obtain ⟨own, ht, ha⟩ := a.adds_poll f.hub
    obtain ⟨events, hd⟩ := a.dequeues_poll f.hub
    exact stage_withHub ha (readerCalls_of_isTraffic fun _ => ht.isTraffic) hd.isSome_bridge

/-- A conversion leaves the stage. -/
lemma stage_convert (f : Feed ρ) (e : Event) : (f.convert e).2.stage = f.stage := by
  rcases f.convert_cases e with ⟨-, hc⟩ | ⟨a, -, hc⟩
  · rw [hc]
    have hn : readerCalls (e.message.parting (.droppedFailure f.hub.redaction)) = [] :=
      readerCalls_of_isClearing fun _ => Message.isClearing_of_mem_parting
    exact stage_withHub (Hub.adds_drop e.message f.hub) hn
      (Hub.dequeues_drop e.message f.hub).isSome_bridge
  · rw [hc]
    obtain ⟨own, hb, ha⟩ := a.adds_process e f.hub
    have hn := readerCalls_of_isTraffic fun _ hx => Entry.isTraffic_of_isEffect (hb.isEffect hx)
    exact stage_withHub ha hn (a.dequeues_process e f.hub).isSome_bridge

/-- What others do leaves the stage. -/
lemma stage_others (f : Feed ρ) (ms : List Move) : (f.withHub (Hub.moves ms)).stage = f.stage :=
  stage_withHub (Hub.adds_moves ms f.hub) rfl (Hub.dequeues_moves ms f.hub).isSome_bridge

/-- A stop is a step of the machine. -/
lemma next_stop [Reader ρ] (f : Feed ρ) : Stage.Next .stop f.stage f.stop.2.stage := by
  obtain ⟨own, ht, ha⟩ := f.adds_stop
  obtain ⟨hs, hr, hm, hb⟩ := f.parts_stop
  have hst : f.stop.2.stage =
      ⟨.stopped, false, false, false, readerCalls f.hub.journal ++ readerCalls own⟩ := by
    unfold stage
    rw [hs, hr, hm, hb, ha.calls]
    rfl
  rw [hst]
  rcases ht.calls with ⟨hr, hn⟩ | ⟨hr, he⟩
  · rw [hn, List.append_nil]
    exact .idle hr
  · exact .ended hr he

end Feed

namespace World

variable {ρ : Type} {w : World ρ} {f g : Feed ρ}

/-- A call of a feed is a step of its stage. -/
lemma next_step [Reader ρ] {c : Call} (hf : w.place = .feed f) (hg : (w.step c).place = .feed g) :
    Stage.Next c f.stage g.stage := by
  obtain ⟨place, converted⟩ := w
  obtain rfl : place = .feed f := hf
  -- only a start and a stop change the stage
  cases c with
  | start properties =>
    cases hg
    exact f.next_start properties
  | poll =>
    cases hg
    rw [f.stage_poll]
    exact .stays (by simp) (by simp)
  | convert e =>
    cases hg
    rw [f.stage_convert e]
    exact .stays (by simp) (by simp)
  | stop =>
    cases hg
    exact f.next_stop
  | signal =>
    cases hg
    exact .stays (by simp) (by simp)
  | others ms =>
    cases hg
    rw [f.stage_others ms]
    exact .stays (by simp) (by simp)
  | letGo => cases hg

/-- A feed that was stopped is there. -/
lemma place_stop [Reader ρ] (hf : w.place = .feed f) : (w.step .stop).place = .feed f.stop.2 := by
  obtain ⟨place, converted⟩ := w
  obtain rfl : place = .feed f := hf
  rfl

/-- A feed that is there after a call was there before it. -/
lemma feed_of_step [Reader ρ] {c : Call} (hg : (w.step c).place = .feed g) :
    ∃ f, w.place = .feed f := by
  obtain ⟨place, converted⟩ := w
  cases place with
  | feed f => exact ⟨f, rfl⟩
  | bridge h => cases c <;> cases hg

/-- A feed that is there after calls was there before them. -/
lemma feed_of_run [Reader ρ] {calls : List Call} (hg : (w.run calls).place = .feed g) :
    ∃ f, w.place = .feed f := by
  induction calls generalizing w with
  | nil => exact ⟨g, hg⟩
  | cons c rest ih =>
    obtain ⟨f, hf⟩ := ih hg
    exact feed_of_step hf

/-- Calls of a feed are steps of the machine. -/
lemma stages_run [Reader ρ] {calls : List Call} (hf : w.place = .feed f)
    (hg : (w.run calls).place = .feed g) : Stage.Run calls f.stage g.stage := by
  induction calls generalizing w f with
  | nil =>
    cases hf.symm.trans hg
    exact .nil
  | cons c rest ih =>
    obtain ⟨k, hk⟩ := feed_of_run (w := w.step c) hg
    exact .cons (next_step hf hk) (ih hk hg)

/-- Every feed whose life began with a new one is at a stage of the list. -/
lemma Fresh.reached [Reader ρ] (hw : w.Fresh) {calls : List Call}
    (hf : (w.run calls).place = .feed f) : f.stage.Reached := by
  obtain ⟨k, hk⟩ := feed_of_run hf
  apply (stages_run hk hf).reached
  cases hw with
  | @feed context h hb _ hj =>
    cases hk
    have hs : (Feed.new (ρ := ρ) context h).stage = ⟨.new, false, false, false, []⟩ := by
      simp [Feed.stage, Feed.new, hb, hj, readerCalls]
    rw [hs]
    exact .new
  | bridge _ _ _ => cases hk

end World

end ChangeFeed
