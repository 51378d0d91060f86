import ChangeFeed.Proofs.Batch.Trace
import Mathlib.Data.List.ReduceOption

/-!
# How large a batch is and when it is complete

The limit of a batch counts the events taken, not the records collected, and once it is used up a
poll goes on until some event gives a record. `Bounded` says what this comes to for a poll that is
under way: as long as there are records, events are left to take, so that a poll that takes more
than the limit returns the record of its last event or none at all.
-/

namespace ChangeFeed

namespace Entry

/-- The answer to an attempt to take an event: the event, or none for a wait that was over. -/
def attempt? : Entry → Option (Option Event)
  | dequeued e => some (some e)
  | waited => some none
  | _ => none

/-- What the running flag was seen to be. -/
def flag? : Entry → Option Bool
  | flagRead running => some running
  | _ => none

/-- An effect of processing is no attempt to take an event. -/
lemma attempt?_of_isEffect {x : Entry} (hx : x.isEffect) : x.attempt? = none := by
  cases x <;> simp_all [isEffect, attempt?]

/-- An effect of processing does not read the flag. -/
lemma flag?_of_isEffect {x : Entry} (hx : x.isEffect) : x.flag? = none := by
  cases x <;> simp_all [isEffect, flag?]

/-- No other thread takes events in place of a poll or reads the flag for it. -/
lemma ByHolder.hidden {held : List Event} {x : Entry} (hx : x.ByHolder held) :
    x.attempt? = none ∧ x.flag? = none := by
  cases x <;> simp_all [ByHolder, attempt?, flag?]

end Entry

/-- The attempts to take an event, with their answers, in order. -/
def attempts (journal : List Entry) : List (Option Event) := journal.filterMap Entry.attempt?

/-- What the running flag was seen to be, in order. -/
def flagsRead (journal : List Entry) : List Bool := journal.filterMap Entry.flag?

/-- The attempts of a journal are those of its parts. -/
@[simp] lemma attempts_append (as bs : List Entry) :
    attempts (as ++ bs) = attempts as ++ attempts bs :=
  List.filterMap_append

/-- The readings of the flag are those of the parts of a journal. -/
@[simp] lemma flagsRead_append (as bs : List Entry) :
    flagsRead (as ++ bs) = flagsRead as ++ flagsRead bs :=
  List.filterMap_append

/-- The events taken are the answers to the attempts. -/
lemma taken_eq_reduceOption (journal : List Entry) :
    taken journal = (attempts journal).reduceOption := by
  show taken journal = (attempts journal).filterMap id
  rw [taken, attempts, List.filterMap_filterMap]
  congr 1
  funext x
  cases x <;> rfl

namespace Assembler

variable {a : Assembler} {isOpen : Bool} {remaining left : Nat}
  {records middle batch : List FeedRecord} {own rest : List Entry}

/-- Processing an event attempts to take none. -/
lemma Block.attempts_eq {e : Event} (hb : a.Block isOpen e own) : attempts own = [] :=
  List.filterMap_eq_nil_iff.2 fun _ hx => Entry.attempt?_of_isEffect (hb.isEffect hx)

/-- Processing an event does not read the flag. -/
lemma Block.flagsRead_eq {e : Event} (hb : a.Block isOpen e own) : flagsRead own = [] :=
  List.filterMap_eq_nil_iff.2 fun _ hx => Entry.flag?_of_isEffect (hb.isEffect hx)

/-- What a poll that returned a batch did from here on, the given records having been collected and
the given number of events being left to take: its attempts to take an event, and what it saw the
flag to be. -/
structure Bounded (a : Assembler) (remaining : Nat) (records : List FeedRecord)
    (tries : List (Option Event)) (flags : List Bool) (batch : List FeedRecord) : Prop where
  gathered : batch = records ++ tries.reduceOption.filterMap a.recordOf
  overdrawn : remaining < tries.reduceOption.length →
    records = [] ∧ ∃ e, tries.reduceOption.getLast? = some e ∧ batch = (a.recordOf e).toList
  cleared : batch = [] → flags.getLast? = some false
  complete : batch ≠ [] → false ∉ flags →
    remaining ≤ tries.reduceOption.length ∨ tries.getLast? = some none
  last_wait : ∀ before after, tries = before ++ none :: after →
    records ≠ [] ∨ (∃ e, some e ∈ before ∧ (a.recordOf e).isSome) → after = []

namespace Bounded

/-- The flag was seen cleared. -/
lemma stopped : a.Bounded remaining records [] [false] records where
  gathered := (List.append_nil records).symm
  overdrawn := fun hlt => absurd hlt (Nat.not_lt_zero _)
  cleared := fun _ => rfl
  complete := by simp
  last_wait := by simp

/-- An event completed the batch. -/
lemma full {e : Event} (hr : records = [] ∨ 0 < remaining)
    (hc : Complete false (remaining - 1) (records ++ (a.recordOf e).toList)) :
    a.Bounded remaining records [some e] [true] (records ++ (a.recordOf e).toList) := by
  obtain ⟨hne, hl⟩ := hc
  have hl : remaining - 1 = 0 := by simpa using hl
  refine ⟨?_, ?_, fun h => absurd h hne, ?_, ?_⟩
  · cases hrec : a.recordOf e <;> simp [hrec]
  · intro hlt
    have hz : remaining = 0 := by simpa using hlt
    have hn : records = [] := hr.resolve_right (by omega)
    exact ⟨hn, e, rfl, by simp [hn]⟩
  · intro _ _
    apply Or.inl
    rw [List.reduceOption_singleton, Option.toList_some, List.length_singleton]
    omega
  · intro before after he
    cases before <;> simp at he

/-- The bridge was idle and there were records. -/
lemma idle (hc : Complete true remaining records) :
    a.Bounded remaining records [none] [true] records := by
  refine ⟨by simp, by simp, fun h => absurd h hc.1, ?_, ?_⟩
  · exact fun _ _ => .inr rfl
  · intro before after he _
    cases before with
    | nil => simpa using he.symm
    | cons x before => simp at he

/-- An event was taken and the batch was not complete. -/
lemma after_event {e : Event} {tries : List (Option Event)} {flags : List Bool}
    (hr : records = [] ∨ 0 < remaining)
    (hc : ¬ Complete false (remaining - 1) (records ++ (a.recordOf e).toList))
    (hb : a.Bounded (remaining - 1) (records ++ (a.recordOf e).toList) tries flags batch) :
    a.Bounded remaining records (some e :: tries) (true :: flags) batch := by
  have hcons : (some e :: tries).reduceOption = e :: tries.reduceOption :=
    List.reduceOption_cons_of_some e tries
  refine ⟨?_, ?_, ?_, ?_, ?_⟩
  · rw [hb.gathered, hcons, List.filterMap_cons, List.append_assoc]
    cases a.recordOf e <;> rfl
  · intro hlt
    rw [hcons] at hlt ⊢
    cases htries : tries.reduceOption with
    | nil =>
      -- the event is the last one, and all events that were allowed had been taken before it
      rw [htries] at hlt
      have hz : remaining = 0 := by simpa using hlt
      have hn : records = [] := hr.resolve_right (by omega)
      refine ⟨hn, e, rfl, ?_⟩
      rw [hb.gathered, htries, hn]
      simp
    | cons f more =>
      rw [htries] at hlt
      have hlt' : remaining - 1 < tries.reduceOption.length := by
        rw [htries]
        simp only [List.length_cons] at hlt ⊢
        omega
      obtain ⟨hn, g, hg, hbatch⟩ := hb.overdrawn hlt'
      refine ⟨(List.append_eq_nil_iff.1 hn).1, g, ?_, hbatch⟩
      rw [htries] at hg
      exact hg
  · intro hn
    rw [List.getLast?_cons, hb.cleared hn]
    rfl
  · intro hne hflags
    rcases hb.complete hne fun hm => hflags (List.mem_cons_of_mem _ hm) with hle | hlast
    · rw [hcons, List.length_cons]
      omega
    · rw [List.getLast?_cons, hlast]
      exact .inr rfl
  · intro before after he hrec
    cases before with
    | nil => cases he
    | cons x before =>
      obtain ⟨rfl, htail⟩ := List.cons.inj he
      apply hb.last_wait before after htail
      rcases hrec with hne | ⟨f, hf, hsome⟩
      · exact .inl fun hn => hne (List.append_eq_nil_iff.1 hn).1
      · rcases List.mem_cons.1 hf with hfe | hf
        · obtain rfl := Option.some.inj hfe
          apply Or.inl
          obtain ⟨r, hrec⟩ := Option.isSome_iff_exists.1 hsome
          simp [hrec]
        · exact .inr ⟨f, hf, hsome⟩

/-- A wait was over and there were no records. -/
lemma after_wait {tries : List (Option Event)} {flags : List Bool}
    (hc : ¬ Complete true remaining records)
    (hb : a.Bounded remaining records tries flags batch) :
    a.Bounded remaining records (none :: tries) (true :: flags) batch := by
  have hn : records = [] := by
    by_contra hne
    exact hc ⟨hne, .inr rfl⟩
  refine ⟨hb.gathered, hb.overdrawn, ?_, ?_, ?_⟩
  · intro he
    rw [List.getLast?_cons, hb.cleared he]
    rfl
  · intro hne hflags
    rcases hb.complete hne fun hm => hflags (List.mem_cons_of_mem _ hm) with hle | hlast
    · exact .inl hle
    · rw [List.getLast?_cons, hlast]
      exact .inr rfl
  · intro before after he hrec
    have hrec := hrec.resolve_left (fun hne => hne hn)
    cases before with
    | nil =>
      obtain ⟨e, hm, -⟩ := hrec
      cases hm
    | cons x before =>
      obtain ⟨rfl, htail⟩ := List.cons.inj he
      obtain ⟨e, hm, hsome⟩ := hrec
      have hm : some e ∈ before := by simpa using hm
      exact hb.last_wait before after htail (.inr ⟨e, hm, hsome⟩)

end Bounded

/-- What a round takes in, as attempts. -/
lemma Intake.cases_attempts {idle : Bool}
    (hi : a.Intake isOpen remaining records own idle left middle) :
    flagsRead own = [] ∧
      ((∃ e, attempts own = [some e] ∧ idle = false ∧ left = remaining - 1 ∧
          middle = records ++ (a.recordOf e).toList) ∨
        (attempts own = [none] ∧ idle = true ∧ left = remaining ∧ middle = records)) := by
  cases hi with
  | @event e block record hb ho =>
    obtain rfl := a.recordOf_of_outcome ho
    refine ⟨hb.flagsRead_eq, .inl ⟨e, ?_, rfl, rfl, rfl⟩⟩
    have hcons : attempts (.dequeued e :: block) = some e :: attempts block := rfl
    rw [hcons, hb.attempts_eq]
  | idle => exact ⟨rfl, .inr ⟨rfl, rfl, rfl, rfl⟩⟩

/-- A poll that returned a batch is bounded; as long as there are records, events are left. -/
lemma PollTrace.bounded {poll : Poll} (ht : a.PollTrace isOpen remaining records own poll)
    (hr : records = [] ∨ 0 < remaining) (hp : poll = .done (.ok batch)) :
    a.Bounded remaining records (attempts own) (flagsRead own) batch := by
  induction ht with
  | stopped =>
    cases hp
    exact .stopped
  | @ends remaining records own poll hround =>
    subst hp
    cases hround with
    | @returns own idle left _ hi hc =>
      show a.Bounded remaining records (attempts (own ++ [_]))
        (true :: flagsRead (own ++ [_])) batch
      obtain ⟨hf, ⟨e, he, rfl, rfl, rfl⟩ | ⟨he, rfl, rfl, rfl⟩⟩ := hi.cases_attempts
      · rw [attempts_append, flagsRead_append, he, hf]
        exact .full hr hc
      · rw [attempts_append, flagsRead_append, he, hf]
        exact .idle hc
  | @goesOn remaining records own left middle rest poll hround _ ih =>
    cases hround with
    | goesOn hi hc =>
      show a.Bounded remaining records (attempts (own ++ rest))
        (true :: flagsRead (own ++ rest)) batch
      have hmiddle : middle = [] ∨ 0 < left := by
        by_contra hn
        rw [not_or] at hn
        exact hc ⟨hn.1, .inl (by omega)⟩
      have hb := ih hmiddle hp
      obtain ⟨hf, ⟨e, he, rfl, rfl, rfl⟩ | ⟨he, rfl, rfl, rfl⟩⟩ := hi.cases_attempts
      · rw [attempts_append, flagsRead_append, he, hf]
        exact .after_event hr hc hb
      · rw [attempts_append, flagsRead_append, he, hf]
        exact .after_wait hc hb

/-- What a poll that returned a batch did, as its journal tells it. -/
lemma bounded_poll {h : Hub} (hr : (a.poll h).1 = .done (.ok batch)) :
    a.Bounded a.limit.1 [] (attempts (h.since (a.poll h).2)) (flagsRead (h.since (a.poll h).2))
      batch := by
  obtain ⟨own, ht, ha⟩ := a.adds_poll h
  have htries : attempts (h.since (a.poll h).2) = attempts own :=
    ha.filterMap_since fun _ _ hx => hx.hidden.1
  have hflags : flagsRead (h.since (a.poll h).2) = flagsRead own :=
    ha.filterMap_since fun _ _ hx => hx.hidden.2
  rw [htries, hflags]
  exact ht.bounded (.inl rfl) hr

/-- If a poll returns a batch, whatever other threads and acknowledgements do meanwhile, then the
batch holds no more records than its limit. If more events than that were taken, there is at most
one record, and it is that of the last event taken. An empty batch is returned only after the
running flag was seen cleared, and if it never was, a batch is returned only when as many events
were taken as the limit allows or the last wait for an event was in vain. Once an event that has a
record was taken, the first wait in vain is the last thing that is waited for. -/
theorem poll_bounded {h : Hub} (hr : (a.poll h).1 = .done (.ok batch)) :
    batch.length ≤ a.limit.1 ∧
    (a.limit.1 < (taken (h.since (a.poll h).2)).length →
      batch.length ≤ 1 ∧
      ∀ r ∈ batch, ∃ e, (taken (h.since (a.poll h).2)).getLast? = some e ∧
        a.recordOf e = some r) ∧
    (batch = [] → (flagsRead (h.since (a.poll h).2)).getLast? = some false) ∧
    (batch ≠ [] → false ∉ flagsRead (h.since (a.poll h).2) →
      a.limit.1 ≤ (taken (h.since (a.poll h).2)).length ∨
        (attempts (h.since (a.poll h).2)).getLast? = some none) ∧
    (∀ before after, attempts (h.since (a.poll h).2) = before ++ none :: after →
      (∃ e, some e ∈ before ∧ (a.recordOf e).isSome) → after = []) := by
  have hb := bounded_poll hr
  have hpos := a.limit.2
  rw [taken_eq_reduceOption]
  have hone : a.limit.1 < (attempts (h.since (a.poll h).2)).reduceOption.length →
      batch.length ≤ 1 := by
    intro hlt
    obtain ⟨-, e, -, hbatch⟩ := hb.overdrawn hlt
    rw [hbatch]
    cases a.recordOf e <;> simp
  refine ⟨?_, ?_, hb.cleared, hb.complete, ?_⟩
  · by_cases hlt : a.limit.1 < (attempts (h.since (a.poll h).2)).reduceOption.length
    · exact Nat.le_trans (hone hlt) hpos
    · have hle : batch.length ≤ (attempts (h.since (a.poll h).2)).reduceOption.length := by
        rw [hb.gathered, List.nil_append]
        exact List.length_filterMap_le _ _
      omega
  · intro hlt
    refine ⟨hone hlt, ?_⟩
    intro r hrec
    obtain ⟨-, e, he, hbatch⟩ := hb.overdrawn hlt
    rw [hbatch] at hrec
    exact ⟨e, he, Option.mem_toList.1 hrec⟩
  · exact fun before after he hrec => hb.last_wait before after he (.inr hrec)

open Doubles

/-- A poll that gave records returned them. -/
lemma eq_done_of_batch? {poll : Poll} (hb : poll.batch? = some batch) (hne : batch ≠ []) :
    poll = .done (.ok batch) := by
  cases poll with
  | waiting =>
    obtain rfl := Option.some.inj hb
    exact absurd rfl hne
  | done result =>
    cases result with
    | error cause => cases hb
    | ok records =>
      obtain rfl := Option.some.inj hb
      rfl

/-- Three events are taken although the limit is one, and the only record is that of the third. -/
theorem poll_bounded_mixed :
    ∃ batch, (choosy.poll mixed).1 = .done (.ok batch) ∧ batch.length = 1 ∧
      choosy.limit.1 < (taken (mixed.since (choosy.poll mixed).2)).length ∧
      ∀ r ∈ batch, ∃ e, e.message.seqno = 3 ∧ choosy.recordOf e = some r := by
  have hlen : (choosy.poll mixed).1.batch?.map List.length = some 1 := by decide +kernel
  obtain ⟨batch, hb, hn⟩ := Option.map_eq_some_iff.1 hlen
  have hr : (choosy.poll mixed).1 = .done (.ok batch) := by
    apply eq_done_of_batch? hb
    rintro rfl
    cases hn
  have hlt : choosy.limit.1 < (taken (mixed.since (choosy.poll mixed).2)).length := by
    decide +kernel
  have hlast : (taken (mixed.since (choosy.poll mixed).2)).getLast?.map (·.message.seqno) =
      some 3 := by
    decide +kernel
  refine ⟨batch, hr, hn, hlt, ?_⟩
  intro r hrec
  obtain ⟨e, he, hrecord⟩ := ((poll_bounded hr).2.1 hlt).2 r hrec
  rw [he] at hlast
  exact ⟨e, Option.some.inj hlast, hrecord⟩

end Assembler

end ChangeFeed
