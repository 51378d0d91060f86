import ChangeFeed.Doubles
import ChangeFeed.Proofs.Batch.Stream

/-!
# A fault that waits

A poll looks for a fault at the end of each round, but not when the batch is full: then it returns
the records first. So a fault that waits when a poll begins fails this poll, unless the batch holds
one record only and the first event fills it; then the fault goes on waiting, and the next poll is
faced with the same choice.
-/

namespace ChangeFeed

namespace Hub

variable {h k : Hub} {e : Event} {fault : String}

/-- A fault that waits still waits when others acted. -/
lemma fault?_yield (hf : h.fault? = some fault) : h.yield.fault? = some fault :=
  (reaches_yield (s := 0) (g := 0)).fault?_eq hf

/-- A fault that waits still waits when the flag was read. -/
lemma fault?_readFlag (hf : h.fault? = some fault) : h.readFlag.2.fault? = some fault :=
  (reaches_readFlag (s := 0) (g := 0)).fault?_eq hf

/-- Taking an event leaves the slot alone. -/
lemma fault?_dequeue_some (hf : h.fault? = some fault) (hd : h.dequeue = (some e, k)) :
    k.fault? = some fault := by
  obtain ⟨b, rest, hb, -, rfl⟩ := dequeue_eq_some hd
  simpa [fault?, hb] using fault?_yield hf

/-- A fault that waits still waits when no event came. -/
lemma fault?_dequeue_none (hf : h.fault? = some fault) (hd : h.dequeue = (none, k)) :
    k.fault? = some fault :=
  (reaches_dequeue_none (s := 0) (g := 0) hd).fault?_eq hf

/-- Nobody else takes a fault that waits, so that it is found. -/
lemma takeFault_of_fault? (hf : h.fault? = some fault) : ∃ k, h.takeFault = (some fault, k) := by
  have hy := fault?_yield hf
  rcases h.takeFault_cases with ⟨hn, -⟩ | ⟨b, text, hb, hbf, ht⟩
  · rw [hn] at hy
    cases hy
  · have : text = fault := by simpa [fault?, hb, hbf] using hy
    subst this
    exact ⟨_, ht⟩

end Hub

namespace Assembler

variable (a : Assembler) {h : Hub} {fault : String}

/-- What a poll comes to at which a fault waits, by the event that it takes first. -/
def answerTo (fault : String) : Option Event → Except FeedError (List FeedRecord)
  | none => .error (.fatal fault)
  | some e =>
    match a.outcome e with
    | .error cause => .error cause
    | .ok none => .error (.fatal fault)
    | .ok (some record) => if a.limit.1 = 1 then .ok [record] else .error (.fatal fault)

/-- The first round of a poll at which a fault waits ends it; with a record the fault
still waits. -/
lemma round_of_fault (hf : h.fault? = some fault) :
    (a.round a.limit.1 [] h).1 = .ends (.done (a.answerTo fault h.dequeue.1)) ∧
      ∀ records, a.answerTo fault h.dequeue.1 = .ok records →
        (a.round a.limit.1 [] h).2.fault? = some fault := by
  have hpos := a.limit.2
  unfold round
  split
  · rename_i e k hd
    have hk := Hub.fault?_dequeue_some hf hd
    have ho := a.process_fst e k
    have hp := (a.reaches_process (h := k) (s := 0) (g := 0) e).fault?_eq hk
    rw [hd]
    split
    · rename_i cause l hc
      rw [hc] at ho
      simp [answerTo, ← ho]
    · rename_i record l hc
      rw [hc] at ho hp
      obtain ⟨m, ht⟩ := Hub.takeFault_of_fault? hp
      cases record with
      | none => simp [answerTo, ← ho, ht]
      | some r =>
        by_cases hl : a.limit.1 = 1
        · refine ⟨by simp [answerTo, ← ho, hl, finish], fun _ _ => ?_⟩
          simpa [hl, finish, Hub.log] using hp
        · have hne : a.limit.1 - 1 ≠ 0 := by omega
          simp [answerTo, ← ho, hl, hne, ht]
  · rename_i k hd
    obtain ⟨m, ht⟩ := Hub.takeFault_of_fault? (Hub.fault?_dequeue_none hf hd)
    simp [answerTo, hd, ht]

/-- A poll that sees the running flag set while a fault waits takes one round. -/
lemma poll_of_fault (hf : h.fault? = some fault) (hr : h.readFlag.1 = true) :
    (a.poll h).1 = .done (a.answerTo fault h.readFlag.2.dequeue.1) ∧
      ∀ records, a.answerTo fault h.readFlag.2.dequeue.1 = .ok records →
        (a.poll h).2.fault? = some fault := by
  obtain ⟨hround, hwaits⟩ := a.round_of_fault (Hub.fault?_readFlag hf)
  unfold poll
  rw [pollFrom]
  split
  · rename_i k hk
    rw [hk] at hr
    cases hr
  · rename_i g hg
    rw [hg] at hround hwaits
    rw [hg]
    split
    · rename_i poll l hl
      rw [hl] at hround hwaits
      obtain rfl := Round.ends.inj hround
      exact ⟨rfl, hwaits⟩
    · rename_i hl
      rw [hl] at hround
      cases hround

/-- The batch holds one record only, and the first event that the poll takes fills it. -/
def FullAtOnce (h : Hub) : Prop :=
  a.limit.1 = 1 ∧ ∃ e record, h.readFlag.2.dequeue.1 = some e ∧ a.outcome e = .ok (some record)

/-- A batch that is full at once is returned although a fault waits. -/
lemma answerTo_of_fullAtOnce (fault : String) (hfull : a.FullAtOnce h) :
    ∃ record, a.answerTo fault h.readFlag.2.dequeue.1 = .ok [record] := by
  obtain ⟨hl, e, record, hd, ho⟩ := hfull
  exact ⟨record, by simp [answerTo, hd, ho, hl]⟩

/-- In every other case the poll fails, with the fault or with what became of its first event. -/
lemma answerTo_of_not_fullAtOnce (fault : String) (hfull : ¬ a.FullAtOnce h) :
    ∃ cause, a.answerTo fault h.readFlag.2.dequeue.1 = .error cause ∧
      (cause = .fatal fault ∨
        ∃ e, h.readFlag.2.dequeue.1 = some e ∧ a.outcome e = .error cause) := by
  cases hd : h.readFlag.2.dequeue.1 with
  | none => exact ⟨_, rfl, .inl rfl⟩
  | some e =>
    cases ho : a.outcome e with
    | error cause => exact ⟨cause, by simp [answerTo, ho], .inr ⟨e, rfl, ho⟩⟩
    | ok record =>
      cases record with
      | none => exact ⟨_, by simp [answerTo, ho], .inl rfl⟩
      | some r =>
        have hl : a.limit.1 ≠ 1 := fun hl => hfull ⟨hl, e, r, hd, ho⟩
        exact ⟨_, by simp [answerTo, ho, hl], .inl rfl⟩

/-- A poll that sees the running flag set while a fault waits fails, just unless the batch is full
at once. It then fails with this fault, or with the failure of the event that it processed first;
else it returns the one record, and the fault goes on waiting. -/
theorem poll_fails_iff (hf : h.fault? = some fault) (hr : h.readFlag.1 = true) :
    ((∃ cause, (a.poll h).1 = .done (.error cause)) ↔ ¬ a.FullAtOnce h) ∧
    (∀ cause, (a.poll h).1 = .done (.error cause) →
      cause = .fatal fault ∨
        ∃ e, h.readFlag.2.dequeue.1 = some e ∧ a.outcome e = .error cause) ∧
    (a.FullAtOnce h →
      ∃ record, (a.poll h).1 = .done (.ok [record]) ∧ (a.poll h).2.fault? = some fault) := by
  obtain ⟨hpoll, hwaits⟩ := a.poll_of_fault hf hr
  by_cases hfull : a.FullAtOnce h
  · obtain ⟨record, hok⟩ := a.answerTo_of_fullAtOnce fault hfull
    rw [hok] at hpoll
    refine ⟨⟨?_, fun hn => absurd hfull hn⟩, ?_, fun _ => ⟨record, hpoll, hwaits _ hok⟩⟩
    · rintro ⟨cause, hc⟩
      rw [hpoll] at hc
      cases hc
    · intro cause hc
      rw [hpoll] at hc
      cases hc
  · obtain ⟨cause, herr, hwhy⟩ := a.answerTo_of_not_fullAtOnce fault hfull
    rw [herr] at hpoll
    refine ⟨⟨fun _ => hfull, fun _ => ⟨cause, hpoll⟩⟩, ?_, fun hn => absurd hn hfull⟩
    intro cause' hc
    rw [hpoll] at hc
    cases hc
    exact hwhy

open Doubles

/-- An assembler of batches of at most the given number of records. -/
def copying (limit : BatchLimit) : Assembler :=
  ⟨⟨none, .rawJson, "travel", "travel-topic"⟩, ⟨"travel", none⟩, limit⟩

/-- A hub at which a feed is running, with an event in its bridge and a fault in its slot. -/
def faulty : Hub :=
  { Hub.idle .none with
    bridge := some ⟨[mutation 0 1], some "connection lost"⟩
    running := true }

/-- With room for two records the fault fails the poll; with room for one the record is returned and
the fault waits. -/
theorem poll_fails_iff_faulty :
    (∃ cause, ((copying ⟨2, by decide⟩).poll faulty).1 = .done (.error cause)) ∧
    ∃ record, ((copying ⟨1, by decide⟩).poll faulty).1 = .done (.ok [record]) ∧
      ((copying ⟨1, by decide⟩).poll faulty).2.fault? = some "connection lost" := by
  have hf : faulty.fault? = some "connection lost" := rfl
  have hr : faulty.readFlag.1 = true := rfl
  obtain ⟨hfails, -, -⟩ := (copying ⟨2, by decide⟩).poll_fails_iff hf hr
  obtain ⟨-, -, hreturns⟩ := (copying ⟨1, by decide⟩).poll_fails_iff hf hr
  refine ⟨hfails.2 ?_, hreturns ?_⟩
  · rintro ⟨hl, -⟩
    cases hl
  · exact ⟨rfl, mutation 0 1, _, rfl, rfl⟩

/-- A fault that waits does not fail every poll that sees the running flag set: with room for one
record it is passed over. -/
theorem fault_passed_over :
    ¬ ∀ (a : Assembler) (h : Hub) (fault : String), h.fault? = some fault → h.readFlag.1 = true →
      ∃ cause, (a.poll h).1 = .done (.error cause) := by
  intro hall
  obtain ⟨cause, hc⟩ := hall (copying ⟨1, by decide⟩) faulty "connection lost" rfl rfl
  have hok : ((copying ⟨1, by decide⟩).poll faulty).1.batch?.isSome := by decide +kernel
  rw [hc] at hok
  cases hok

end Assembler

end ChangeFeed
