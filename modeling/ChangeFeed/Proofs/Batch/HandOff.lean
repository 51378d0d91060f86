import ChangeFeed.Proofs.Batch.Acknowledge
import ChangeFeed.Proofs.Batch.Fault

/-!
# What is acknowledged and what is handed off

A poll acknowledges its events one by one and hands over their records all at once, if it hands over
any. So a poll that returns a batch has handed off everything that it acknowledged, and a poll that
fails nothing. `Discards` says what a failing poll took and what of it it acknowledged, for each of
the ways in which it may fail.
-/

namespace ChangeFeed

namespace Assembler

variable (a : Assembler)

/-- Every event that a poll acknowledged and that has a record has it in the batch which the poll
returns. -/
def HandsOff (h : Hub) : Prop :=
  ∀ e ∈ acknowledged (h.since (a.poll h).2), ∀ r, a.recordOf e = some r →
    ∃ batch, (a.poll h).1 = .done (.ok batch) ∧ r ∈ batch

/-- The events that a failing poll took and those that it acknowledged. Before the failure events
were processed. Then one could not be converted, and is not acknowledged; or it was converted and
acknowledged but not released; or a fault was picked up. -/
inductive Discards : List Event → List Event → FeedError → Prop where
  | unconverted {events e cause} :
    (∀ x ∈ events, a.outcome x = .ok (a.recordOf x)) →
    a.pipeline.result e = .error cause →
    Discards (events ++ [e]) events (.pipeline cause)
  | unreleased {events e cause} :
    (∀ x ∈ events, a.outcome x = .ok (a.recordOf x)) →
    a.Converts e = true →
    e.message.releaseError? = some cause →
    Discards (events ++ [e]) (events ++ [e]) (.release cause)
  | fault {events fault} :
    (∀ x ∈ events, a.outcome x = .ok (a.recordOf x)) →
    Discards events events (.fatal fault)

variable {a} {isOpen idle : Bool} {remaining left : Nat} {records middle : List FeedRecord}
  {own : List Entry} {e : Event} {events acked : List Event} {cause : FeedError}

/-- An event that has a record is converted. -/
lemma converts_of_recordOf {r : FeedRecord} (hr : a.recordOf e = some r) : a.Converts e = true := by
  rw [a.converts_eq]
  unfold recordOf at hr
  cases hp : a.pipeline.result e with
  | error cause =>
    rw [hp] at hr
    cases hr
  | ok converted => rfl

/-- An event that gives a record or none was converted. -/
lemma converts_of_outcome {record : Option FeedRecord} (ho : a.outcome e = .ok record) :
    a.Converts e = true := by
  rw [a.converts_eq]
  unfold outcome at ho
  cases hp : a.pipeline.result e with
  | error cause =>
    rw [hp] at ho
    cases ho
  | ok converted => rfl

namespace Discards

/-- One event more was processed before the failure. -/
lemma cons (hd : a.Discards events acked cause) (ho : a.outcome e = .ok (a.recordOf e)) :
    a.Discards (e :: events) (e :: acked) cause := by
  have hcons {more : List Event} (hall : ∀ x ∈ more, a.outcome x = .ok (a.recordOf x)) :
      ∀ x ∈ e :: more, a.outcome x = .ok (a.recordOf x) :=
    List.forall_mem_cons.2 ⟨ho, hall⟩
  cases hd with
  | @unconverted _ x failure hall hx =>
    have hd : a.Discards (e :: acked ++ [x]) (e :: acked) (.pipeline failure) :=
      .unconverted (hcons hall) hx
    exact hd
  | @unreleased before x failure hall hc hr =>
    have hd : a.Discards (e :: before ++ [x]) (e :: before ++ [x]) (.release failure) :=
      .unreleased (hcons hall) hc hr
    exact hd
  | fault hall => exact .fault (hcons hall)

/-- The event at which the poll failed. -/
lemma last (ho : a.outcome e = .error cause) : a.Discards [e] ([e].filter a.Converts) cause := by
  unfold outcome at ho
  cases hp : a.pipeline.result e with
  | error failure =>
    rw [hp] at ho
    obtain rfl := Except.error.inj ho
    have hc : a.Converts e = false := by
      rw [a.converts_eq, hp]
      rfl
    have hd : a.Discards ([] ++ [e]) [] (.pipeline failure) := .unconverted nofun hp
    rw [List.filter_cons_of_neg (by simp [hc])]
    exact hd
  | ok converted =>
    rw [hp] at ho
    have hc : a.Converts e = true := by
      rw [a.converts_eq, hp]
      rfl
    rw [List.filter_cons_of_pos hc]
    cases hr : e.message.releaseError? with
    | none =>
      rw [hr] at ho
      cases ho
    | some failure =>
      rw [hr] at ho
      obtain rfl := Except.error.inj ho
      have hd : a.Discards ([] ++ [e]) ([] ++ [e]) (.release failure) := .unreleased nofun hc hr
      exact hd

end Discards

/-- What a round takes in is processed without failing. -/
lemma Intake.taken_cases (hi : a.Intake isOpen remaining records own idle left middle) :
    taken own = [] ∨ ∃ e, taken own = [e] ∧ a.outcome e = .ok (a.recordOf e) := by
  cases hi with
  | @event e block record hb ho =>
    refine .inr ⟨e, ?_, ?_⟩
    · show e :: taken block = [e]
      rw [hb.taken_eq]
    · rw [a.recordOf_of_outcome ho]
      exact ho
  | idle => exact .inl rfl

/-- What was taken in before a failure was processed. -/
lemma Intake.discards {rest : List Entry}
    (hi : a.Intake isOpen remaining records own idle left middle)
    (hd : a.Discards (taken rest) ((taken rest).filter a.Converts) cause) :
    a.Discards (taken (own ++ rest)) ((taken (own ++ rest)).filter a.Converts) cause := by
  rw [taken_append]
  obtain hn | ⟨e, he, ho⟩ := hi.taken_cases
  · rw [hn]
    exact hd
  · rw [he, List.singleton_append, List.filter_cons_of_pos (converts_of_outcome ho)]
    exact hd.cons ho

/-- A round that fails discards what it took in. -/
lemma RoundTrace.discards
    (hr : a.RoundTrace isOpen remaining records own (.ends (.done (.error cause)))) :
    a.Discards (taken own) ((taken own).filter a.Converts) cause := by
  cases hr with
  | @failed e block _ hb ho =>
    have hone : taken (.dequeued e :: block) = [e] := by
      show e :: taken block = [e]
      rw [hb.taken_eq]
    rw [hone]
    exact .last ho
  | fault hi _ => exact hi.discards (.fault nofun)

/-- A poll that fails discards what it acknowledged. -/
lemma PollTrace.discards {poll : Poll} (ht : a.PollTrace isOpen remaining records own poll)
    (hp : poll = .done (.error cause)) :
    a.Discards (taken own) ((taken own).filter a.Converts) cause := by
  induction ht with
  | stopped => cases hp
  | ends hr =>
    subst hp
    exact hr.discards
  | goesOn hr _ ih =>
    cases hr with
    | goesOn hi _ => exact hi.discards (ih hp)

/-- What a poll took and what it acknowledged, as its journal tells it. -/
lemma acknowledged_since_poll (a : Assembler) (h : Hub) :
    acknowledged (h.since (a.poll h).2) = (taken (h.since (a.poll h).2)).filter a.Converts := by
  obtain ⟨own, ht, ha⟩ := a.adds_poll h
  rw [acknowledged_since ha, taken_since ha, ht.blocks.acknowledged_eq]

/-- Only events that are acknowledged have records. -/
lemma filterMap_recordOf_filter (a : Assembler) (events : List Event) :
    (events.filter a.Converts).filterMap a.recordOf = events.filterMap a.recordOf := by
  induction events with
  | nil => rfl
  | cons e rest ih =>
    cases hc : a.Converts e with
    | true => rw [List.filter_cons_of_pos hc, List.filterMap_cons, List.filterMap_cons, ih]
    | false =>
      have hn : a.recordOf e = none := by
        cases hr : a.recordOf e with
        | none => rfl
        | some r => exact absurd (converts_of_recordOf hr) (by simp [hc])
      rw [List.filter_cons_of_neg (by simp [hc]), ih, List.filterMap_cons, hn]

/-- The records of a poll that did not fail are those of the events that it acknowledged. -/
lemma batch_of_poll {h : Hub} {batch : List FeedRecord}
    (hb : (a.poll h).1.batch? = some batch) :
    batch = (acknowledged (h.since (a.poll h).2)).filterMap a.recordOf := by
  obtain ⟨events, hc⟩ := a.collects_pollFrom a.limit.1 [] h
  obtain ⟨-, ht, -⟩ := hc.dequeues.spec
  obtain ⟨-, rfl⟩ := hc.outcomes batch hb
  rw [acknowledged_since_poll, filterMap_recordOf_filter]
  exact congrArg (List.filterMap a.recordOf) ht.symm

/-- A poll that returns a batch has handed off what it acknowledged: the batch holds the records of
the acknowledged events, in order, and no others; and a poll that waits has nothing to hand off. A
poll that fails hands off nothing, and so it keeps faith with the acknowledged events just unless
one of them has a record; it discards what it acknowledged up to then. -/
theorem hands_off_iff (a : Assembler) (h : Hub) :
    (a.HandsOff h ↔ ¬ ((∃ cause, (a.poll h).1 = .done (.error cause)) ∧
      ∃ e ∈ acknowledged (h.since (a.poll h).2), (a.recordOf e).isSome = true)) ∧
    (∀ batch, (a.poll h).1 = .done (.ok batch) →
      batch = (acknowledged (h.since (a.poll h).2)).filterMap a.recordOf) ∧
    ((a.poll h).1 = .waiting →
      ∀ e ∈ acknowledged (h.since (a.poll h).2), a.recordOf e = none) ∧
    (∀ cause, (a.poll h).1 = .done (.error cause) →
      a.Discards (taken (h.since (a.poll h).2)) (acknowledged (h.since (a.poll h).2)) cause) := by
  have hwaits : (a.poll h).1 = .waiting →
      ∀ e ∈ acknowledged (h.since (a.poll h).2), a.recordOf e = none := by
    intro hp
    have hb : (a.poll h).1.batch? = some [] := by
      rw [hp]
      rfl
    exact List.filterMap_eq_nil_iff.1 (batch_of_poll hb).symm
  have hdone (batch : List FeedRecord) (hp : (a.poll h).1 = .done (.ok batch)) :
      batch = (acknowledged (h.since (a.poll h).2)).filterMap a.recordOf := by
    apply batch_of_poll
    rw [hp]
    rfl
  refine ⟨⟨?_, ?_⟩, hdone, hwaits, ?_⟩
  · rintro hh ⟨⟨cause, hp⟩, e, he, hr⟩
    obtain ⟨r, hr⟩ := Option.isSome_iff_exists.1 hr
    obtain ⟨batch, hok, -⟩ := hh e he r hr
    rw [hp] at hok
    cases hok
  · intro hn e he r hr
    cases hp : (a.poll h).1 with
    | waiting => exact absurd (hwaits hp e he) (by simp [hr])
    | done result =>
      cases result with
      | error cause => exact absurd ⟨⟨cause, hp⟩, e, he, by simp [hr]⟩ hn
      | ok batch =>
        refine ⟨batch, rfl, ?_⟩
        rw [hdone batch hp]
        exact List.mem_filterMap.2 ⟨e, he, hr⟩
  · intro cause hp
    obtain ⟨own, ht, ha⟩ := a.adds_poll h
    rw [acknowledged_since_poll, taken_since ha]
    exact ht.discards hp

open Doubles

/-- A poll that gave no records failed. -/
lemma eq_error_of_batch? {poll : Poll} (hb : poll.batch?.isNone) :
    ∃ cause, poll = .done (.error cause) := by
  cases poll with
  | waiting => cases hb
  | done result =>
    cases result with
    | error cause => exact ⟨cause, rfl⟩
    | ok records => cases hb

/-- While a fault waits, an event that fills the batch is handed off, and one that does not is
acknowledged and discarded. -/
theorem hands_off_iff_faulty :
    (copying ⟨1, by decide⟩).HandsOff faulty ∧
    ∃ events acked cause, (copying ⟨2, by decide⟩).Discards events acked cause ∧
      acked.length = 1 := by
  obtain ⟨hkeeps, -⟩ := (copying ⟨1, by decide⟩).hands_off_iff faulty
  obtain ⟨-, -, -, hdiscards⟩ := (copying ⟨2, by decide⟩).hands_off_iff faulty
  refine ⟨hkeeps.2 ?_, ?_⟩
  · rintro ⟨⟨cause, hp⟩, -⟩
    have hok : ((copying ⟨1, by decide⟩).poll faulty).1.batch?.isSome := by decide +kernel
    rw [hp] at hok
    cases hok
  · have hfails : ((copying ⟨2, by decide⟩).poll faulty).1.batch?.isNone := by decide +kernel
    obtain ⟨cause, hp⟩ := eq_error_of_batch? hfails
    exact ⟨_, _, cause, hdiscards cause hp, by decide +kernel⟩

/-- Not every poll hands off what it acknowledged: if a fault waits behind an event that does not
fill the batch, the event is acknowledged and its record discarded. -/
theorem acknowledged_and_discarded : ¬ ∀ (a : Assembler) (h : Hub), a.HandsOff h := by
  intro hall
  have hfails : ((copying ⟨2, by decide⟩).poll faulty).1.batch?.isNone := by decide +kernel
  have hack : 0 < ((acknowledged (faulty.since ((copying ⟨2, by decide⟩).poll faulty).2)).filterMap
      (copying ⟨2, by decide⟩).recordOf).length := by
    decide +kernel
  obtain ⟨cause, hp⟩ := eq_error_of_batch? hfails
  obtain ⟨r, hr⟩ := List.exists_mem_of_length_pos hack
  obtain ⟨e, he, hrec⟩ := List.mem_filterMap.1 hr
  obtain ⟨batch, hok, -⟩ := hall (copying ⟨2, by decide⟩) faulty e he r hrec
  rw [hp] at hok
  cases hok

end Assembler

end ChangeFeed
