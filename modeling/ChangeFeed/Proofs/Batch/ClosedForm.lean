import ChangeFeed.Proofs.Batch.Bounds
import ChangeFeed.Proofs.Batch.Fault
import ChangeFeed.Proofs.Batch.Halt
import ChangeFeed.Proofs.Hub.Frame

/-!
# What a poll takes that nobody disturbs

While no other thread acts, and no acknowledgement does anything to the hub, a poll can be told in
advance from the queue and the fault slot. It takes as many events as the limit says, or goes on
until the first event that has a record, or takes all there are; it stops short at the first event
that fails. `Alone` is the hub of such a poll, and one lemma for each way in which a round ends says
what the round comes to; the count of events is then an induction on the queue.
-/

namespace ChangeFeed

namespace Hub

/-- A hub at which a feed is running, and at which nobody but the thread that polls is going to do
anything: neither another thread nor the acknowledgement of an event that waits. -/
structure Alone (queue : List Event) (fault : Option String) (h : Hub) : Prop where
  bridge : h.bridge = some ⟨queue, fault⟩
  running : h.running = true
  schedule : h.schedule = []
  hooks : ∀ e ∈ queue, e.hooks = []

variable {h k l : Hub} {e : Event} {queue rest : List Event} {fault : Option String}

namespace Notes

/-- An acknowledgement without hooks does nothing, unless another thread acts. -/
lemma acknowledge (hs : h.schedule = []) (he : e.hooks = []) : h.Notes (h.acknowledge e) := by
  rw [Hub.acknowledge, he, yield_of_nil hs]
  exact record _

end Notes

namespace Alone

/-- Noting something leaves what waits. -/
lemma of_notes (hh : h.Alone queue fault) (hn : h.Notes k) : k.Alone queue fault := by
  obtain ⟨hb, hr, hs, hk⟩ := hh
  rw [hn]
  exact ⟨hb, hr, hs, hk⟩

/-- The flag is found set. -/
lemma readFlag (hh : h.Alone queue fault) :
    h.readFlag = (true, h.record (.flagRead true)) := by
  rw [Hub.readFlag, yield_of_nil hh.schedule, hh.running]

/-- The first event that waits is taken. -/
lemma dequeue_cons (hh : h.Alone (e :: rest) fault) :
    ∃ k, h.dequeue = (some e, k) ∧ k.Alone rest fault := by
  refine ⟨{ h with bridge := some ⟨rest, fault⟩ }.record (.dequeued e), ?_, ?_⟩
  · rw [dequeue, yield_of_nil hh.schedule, hh.bridge]
    rfl
  · exact ⟨rfl, hh.running, hh.schedule, fun x hx => hh.hooks x (List.mem_cons_of_mem _ hx)⟩

/-- Where no event waits, waiting is in vain. -/
lemma dequeue_nil (hh : h.Alone [] fault) : h.dequeue = (none, h.record .waited) := by
  rw [dequeue, yield_of_nil hh.schedule, hh.bridge]
  rfl

/-- Where no fault waits none is taken. -/
lemma takeFault_none (hh : h.Alone queue none) : h.takeFault = (none, h) := by
  obtain ⟨bridge, running, redaction, schedule, handedBack, journal⟩ := h
  obtain ⟨rfl, -, rfl, -⟩ := hh
  rfl

/-- The fault that waits is taken. -/
lemma takeFault_some {text : String} (hh : h.Alone queue (some text)) :
    ∃ k, h.takeFault = (some text, k) ∧ k.Alone queue none := by
  refine ⟨{ h with bridge := some ⟨queue, none⟩ }.record (.faultTaken text), ?_, ?_⟩
  · rw [takeFault, yield_of_nil hh.schedule, hh.bridge]
    rfl
  · exact ⟨rfl, hh.running, hh.schedule, hh.hooks⟩

end Alone

end Hub

namespace Pipeline

/-- Running an event only notes something, unless another thread acts. -/
lemma notes_run (p : Pipeline) (e : Event) {h : Hub} (hs : h.schedule = []) :
    h.Notes (p.run e h).2 := by
  have hf : h.Notes (p.recordFilter e.message h) := by
    unfold recordFilter
    cases p.filter with
    | none => exact .refl
    | some f =>
      dsimp only
      rw [Hub.yield_of_nil hs]
      exact .record _
  unfold run
  cases p.passes e.message with
  | error cause => exact hf
  | ok passed =>
    cases passed with
    | false => exact hf
    | true =>
      dsimp only
      rw [Hub.yield_of_nil (hf.schedule.trans hs)]
      exact hf.trans (.record _)

end Pipeline

namespace Assembler

variable (a : Assembler) {h k g l : Hub} {e : Event} {queue rest : List Event}
  {fault : Option String} {text : String} {remaining : Nat} {records : List FeedRecord}
  {record : Option FeedRecord} {cause : FeedError}

/-- Processing an event only notes something, unless another thread or a hook acts. -/
lemma notes_process (hs : h.schedule = []) (he : e.hooks = []) : h.Notes (a.process e h).2 := by
  have hr := a.pipeline.notes_run e hs
  unfold process
  split
  · rename_i cause k hk
    rw [hk] at hr
    rw [Hub.yield_of_nil (hr.schedule.trans hs)]
    exact hr.trans (.releaseOrLog _ _)
  · rename_i converted k hk
    rw [hk] at hr
    have ha : h.Notes (k.acknowledge e) := hr.trans (.acknowledge (hr.schedule.trans hs) he)
    have hl := ha.trans (.release e.message)
    rw [Hub.yield_of_nil (ha.schedule.trans hs)]
    split <;> rename_i heq <;> rw [heq] at hl <;> exact hl

/-- The first event is taken and processed, and the others go on waiting. -/
lemma takes_first (hh : h.Alone (e :: rest) fault) :
    ∃ k l, h.dequeue = (some e, k) ∧ a.process e k = (a.outcome e, l) ∧ l.Alone rest fault ∧
      h.Dequeues [e] l := by
  obtain ⟨k, hd, hk⟩ := hh.dequeue_cons
  have hn : k.Notes (a.process e k).2 := a.notes_process hk.schedule (hh.hooks e List.mem_cons_self)
  refine ⟨k, (a.process e k).2, hd, ?_, hk.of_notes hn, ?_⟩
  · rw [← a.process_fst e k]
  · exact (Hub.dequeues_dequeue_some hd).trans (a.dequeues_process e k)

/-- An event that fails ends the round. -/
lemma round_failed (remaining : Nat) (records : List FeedRecord)
    (hh : h.Alone (e :: rest) fault) (ho : a.outcome e = .error cause) :
    ∃ l, a.round remaining records h = (.ends (.done (.error cause)), l) ∧ l.Alone rest fault ∧
      h.Dequeues [e] l := by
  obtain ⟨k, l, hd, hp, hl, hq⟩ := a.takes_first hh
  refine ⟨l, ?_, hl, hq⟩
  rw [round, hd]
  simp only [hp, ho]

/-- An event that fills the batch ends the round, whether or not a fault waits. -/
lemma round_full (hh : h.Alone (e :: rest) fault) (ho : a.outcome e = .ok record)
    (hc : Complete false (remaining - 1) (records ++ record.toList)) :
    ∃ l, a.round remaining records h = (.ends (.done (.ok (records ++ record.toList))), l) ∧
      l.Alone rest fault ∧ h.Dequeues [e] l := by
  obtain ⟨k, l, hd, hp, hl, hq⟩ := a.takes_first hh
  have hfull : ¬ (records ++ record.toList).isEmpty ∧ remaining - 1 = 0 := by
    simpa [Complete] using hc
  refine ⟨(finish (records ++ record.toList) l).2, ?_, hl.of_notes (.record _), ?_⟩
  · rw [round, hd]
    simp only [hp, ho, if_pos hfull]
    rfl
  · exact hq.trans (Hub.dequeues_note rfl l)

/-- A batch that an event does not fill is left open, and the fault slot is looked at. -/
lemma round_open (hh : h.Alone (e :: rest) fault) (ho : a.outcome e = .ok record)
    (hc : ¬ Complete false (remaining - 1) (records ++ record.toList)) :
    ∃ l, l.Alone rest none ∧ h.Dequeues [e] l ∧
      a.round remaining records h =
        (fault.elim (.goesOn (remaining - 1) (records ++ record.toList))
          fun text => .ends (.done (.error (.fatal text))), l) := by
  obtain ⟨k, l, hd, hp, hl, hq⟩ := a.takes_first hh
  have hopen : ¬ (¬ (records ++ record.toList).isEmpty ∧ remaining - 1 = 0) := by
    simpa [Complete] using hc
  cases fault with
  | none =>
    refine ⟨l, hl, hq, ?_⟩
    rw [round, hd]
    simp only [hp, ho, if_neg hopen, hl.takeFault_none, Option.elim_none]
  | some text =>
    obtain ⟨m, ht, hm⟩ := hl.takeFault_some
    have hqm : h.Dequeues [e] m := by
      have hd := Hub.dequeues_takeFault l
      rw [ht] at hd
      exact hq.trans hd
    refine ⟨m, hm, hqm, ?_⟩
    rw [round, hd]
    simp only [hp, ho, if_neg hopen, ht, Option.elim_some]

/-- What a poll comes to that found no more events: it returns what it collected, and waits if that
is nothing. -/
def settled (batch : List FeedRecord) : Poll :=
  if batch.isEmpty then .waiting else .done (.ok batch)

/-- Without events the batch is returned as it is; if there is none the poll waits. -/
lemma round_idle (hh : h.Alone [] none) :
    ∃ l, a.round remaining records h = (.ends (settled records), l) ∧ l.Alone [] none ∧
      h.Dequeues [] l := by
  have hw : (h.record .waited).Alone [] none := hh.of_notes (.record _)
  rw [round, hh.dequeue_nil, settled]
  cases hr : records.isEmpty with
  | true =>
    refine ⟨h.record .waited, ?_, hw, Hub.dequeues_note rfl h⟩
    simp [hw.takeFault_none, hh.schedule]
  | false =>
    refine ⟨(finish records (h.record .waited)).2, ?_, hw.of_notes (.record _), ?_⟩
    · simp [finish]
    · exact (Hub.dequeues_note rfl h).trans (Hub.dequeues_note rfl _)

/-- Without events a fault is found at once. -/
lemma round_idle_fault (remaining : Nat) (hh : h.Alone [] (some text)) :
    ∃ l, a.round remaining [] h = (.ends (.done (.error (.fatal text))), l) ∧ l.Alone [] none ∧
      h.Dequeues [] l := by
  have hw : (h.record .waited).Alone [] (some text) := hh.of_notes (.record _)
  obtain ⟨m, ht, hm⟩ := hw.takeFault_some
  have hq := Hub.dequeues_takeFault (h.record .waited)
  rw [ht] at hq
  refine ⟨m, ?_, hm, (Hub.dequeues_note rfl h).trans hq⟩
  rw [round, hh.dequeue_nil]
  simp [ht]

/-- Whether an event is turned into a record. -/
def turnsOut (e : Event) : Bool :=
  match a.outcome e with
  | .ok (some _) => true
  | _ => false

/-- How many of the events that wait a poll takes unless one of them fails, with so many left to
take and what it collected so far. -/
def reachFrom (remaining : Nat) (queue : List Event) : List FeedRecord → Nat
  | [] => min queue.length (max remaining (queue.findIdx a.turnsOut + 1))
  | _ :: _ => min queue.length remaining

/-- How many of the events that wait a poll takes unless one of them fails: as many as the limit
allows, or as many as it takes to get to the first one that has a record. If none has, `findIdx` is
the length of the queue, and all of them are taken. -/
def reach (queue : List Event) : Nat :=
  min queue.length (max a.limit.1 (queue.findIdx a.turnsOut + 1))

variable {a}

/-- Events that come later do not bring the end of a poll forward. -/
lemma reach_le_append (queue more : List Event) : a.reach queue ≤ a.reach (queue ++ more) := by
  have hle : queue.findIdx a.turnsOut ≤ queue.length := List.findIdx_le_length
  unfold reach
  rw [List.findIdx_append, List.length_append]
  split <;> omega

/-- An event turns out a record if processing it gives one. -/
lemma turnsOut_of_outcome (ho : a.outcome e = .ok record) : a.turnsOut e = record.isSome := by
  unfold turnsOut
  rw [ho]
  cases record <;> rfl

/-- An event that fills the batch is the only one that is taken. -/
lemma reachFrom_full (hr : records ≠ [] → 0 < remaining) (ho : a.outcome e = .ok record)
    (hc : Complete false (remaining - 1) (records ++ record.toList)) :
    a.reachFrom remaining (e :: rest) records = 1 := by
  obtain ⟨hne, hz⟩ := hc
  have hle : remaining - 1 = 0 := hz.resolve_right Bool.false_ne_true
  have ht : a.turnsOut e = record.isSome := turnsOut_of_outcome ho
  cases records with
  | nil =>
    cases record with
    | none => exact absurd rfl hne
    | some r =>
      simp only [reachFrom, List.length_cons, List.findIdx_cons, ht, Option.isSome_some, cond_true]
      omega
  | cons r records =>
    have hpos := hr (List.cons_ne_nil _ _)
    simp only [reachFrom, List.length_cons]
    omega

/-- After an event that leaves the batch open there is room for the next one. -/
lemma room_of_open (hc : ¬ Complete false (remaining - 1) records) :
    records ≠ [] → 0 < remaining - 1 := by
  intro hne
  by_contra hz
  exact hc ⟨hne, .inl (by omega)⟩

/-- After an event that leaves the batch open the others are counted as if the poll began there. -/
lemma reachFrom_open (rest : List Event) (hr : records ≠ [] → 0 < remaining)
    (ho : a.outcome e = .ok record)
    (hc : ¬ Complete false (remaining - 1) (records ++ record.toList)) :
    a.reachFrom remaining (e :: rest) records =
      a.reachFrom (remaining - 1) rest (records ++ record.toList) + 1 := by
  have hroom := room_of_open hc
  have ht : a.turnsOut e = record.isSome := turnsOut_of_outcome ho
  cases records with
  | nil =>
    cases record with
    | none =>
      simp only [reachFrom, Option.toList_none, List.append_nil, List.length_cons,
        List.findIdx_cons, ht, Option.isSome_none, cond_false]
      omega
    | some r =>
      have hpos : 0 < remaining - 1 := hroom (List.cons_ne_nil _ _)
      simp only [reachFrom, Option.toList_some, List.nil_append, List.length_cons,
        List.findIdx_cons, ht, Option.isSome_some, cond_true]
      omega
  | cons r records =>
    have hpos := hr (List.cons_ne_nil _ _)
    simp only [reachFrom, List.length_cons, List.cons_append]
    omega

/-- A poll reaches the first event if it may take any. -/
lemma reachFrom_pos (hr : records ≠ [] → 0 < remaining) :
    0 < a.reachFrom remaining (e :: rest) records := by
  cases records with
  | nil =>
    simp only [reachFrom, List.length_cons]
    omega
  | cons r records =>
    have hpos := hr (List.cons_ne_nil _ _)
    simp only [reachFrom, List.length_cons]
    omega

/-- As long as no event fails, the events within reach are taken, and their records are added to
those collected before. -/
lemma pollFrom_succeeds (hh : h.Alone queue none) (hr : records ≠ [] → 0 < remaining)
    (hok : ∀ e ∈ queue.take (a.reachFrom remaining queue records),
      a.outcome e = .ok (a.recordOf e)) :
    ∃ l, a.pollFrom remaining records h =
        (settled (records ++
          (queue.take (a.reachFrom remaining queue records)).filterMap a.recordOf), l) ∧
      l.Alone (queue.drop (a.reachFrom remaining queue records)) none ∧
      h.Dequeues (queue.take (a.reachFrom remaining queue records)) l := by
  -- the queue is followed event by event; what was collected and how much room is left go along
  induction queue generalizing h remaining records with
  | nil =>
    have hg := hh.of_notes (.record (.flagRead true))
    obtain ⟨l, hround, hl, hq⟩ := a.round_idle hg
    refine ⟨l, ?_, ?_, ?_⟩
    · simpa using pollFrom_of_ends hh.readFlag hround
    · simpa using hl
    · simpa using (Hub.dequeues_note rfl h).trans hq
  | cons e rest ih =>
    have hg := hh.of_notes (.record (.flagRead true))
    have hnote : h.Dequeues [] (h.record (.flagRead true)) := Hub.dequeues_note rfl h
    have hpos : 0 < a.reachFrom remaining (e :: rest) records := reachFrom_pos hr
    obtain ⟨n, hn⟩ := Nat.exists_eq_succ_of_ne_zero (Nat.ne_of_gt hpos)
    have ho : a.outcome e = .ok (a.recordOf e) := by
      apply hok
      rw [hn, List.take_succ_cons]
      exact List.mem_cons_self
    by_cases hc : Complete false (remaining - 1) (records ++ (a.recordOf e).toList)
    · obtain ⟨l, hround, hl, hq⟩ := a.round_full hg ho hc
      rw [reachFrom_full hr ho hc]
      refine ⟨l, ?_, hl, hnote.trans hq⟩
      rw [pollFrom_of_ends hh.readFlag hround]
      have hne : records ++ (a.recordOf e).toList ≠ [] := hc.1
      cases hrec : a.recordOf e with
      | none => simpa [settled, hrec] using hne
      | some r => simp [settled, hrec]
    · obtain ⟨k, hk, hq, hround⟩ := a.round_open hg ho hc
      have hreach := reachFrom_open rest hr ho hc
      rw [hreach, List.take_succ_cons] at hok
      obtain ⟨l, hpoll, hl, hmore⟩ :=
        ih hk (room_of_open hc) fun x hx => hok x (List.mem_cons_of_mem _ hx)
      rw [hreach, List.take_succ_cons, List.drop_succ_cons]
      refine ⟨l, ?_, hl, (hnote.trans hq).trans hmore⟩
      rw [pollFrom_of_goesOn hh.readFlag hround, hpoll]
      cases hrec : a.recordOf e <;> simp [hrec]

/-- The first event that fails ends the poll, if it is within reach. -/
lemma pollFrom_fails {before : List Event} (hh : h.Alone (before ++ e :: rest) none)
    (hr : records ≠ [] → 0 < remaining) (hok : ∀ x ∈ before, a.outcome x = .ok (a.recordOf x))
    (ho : a.outcome e = .error cause)
    (hlt : before.length < a.reachFrom remaining (before ++ e :: rest) records) :
    ∃ l, a.pollFrom remaining records h = (.done (.error cause), l) ∧ l.Alone rest none ∧
      h.Dequeues (before ++ [e]) l := by
  induction before generalizing h remaining records with
  | nil =>
    have hg := hh.of_notes (.record (.flagRead true))
    obtain ⟨l, hround, hl, hq⟩ := a.round_failed remaining records hg ho
    exact ⟨l, pollFrom_of_ends hh.readFlag hround, hl, (Hub.dequeues_note rfl h).trans hq⟩
  | cons x before ih =>
    have hg := hh.of_notes (.record (.flagRead true))
    have hnote : h.Dequeues [] (h.record (.flagRead true)) := Hub.dequeues_note rfl h
    have hx := hok x List.mem_cons_self
    rw [List.cons_append] at hlt
    by_cases hc : Complete false (remaining - 1) (records ++ (a.recordOf x).toList)
    · -- the poll would have been over before the event that fails
      rw [reachFrom_full hr hx hc, List.length_cons] at hlt
      omega
    · obtain ⟨k, hk, hq, hround⟩ := a.round_open hg hx hc
      rw [reachFrom_open (before ++ e :: rest) hr hx hc, List.length_cons] at hlt
      obtain ⟨l, hpoll, hl, hmore⟩ :=
        ih hk (room_of_open hc) (fun y hy => hok y (List.mem_cons_of_mem _ hy)) (by omega)
      refine ⟨l, ?_, hl, (hnote.trans hq).trans hmore⟩
      rw [pollFrom_of_goesOn hh.readFlag hround, hpoll]

/-- An event that does not fail gives its record, if it has one. -/
lemma outcome_of_ne_error (ho : ∀ cause, a.outcome e ≠ .error cause) :
    a.outcome e = .ok (a.recordOf e) := by
  cases hout : a.outcome e with
  | error cause => exact absurd hout (ho cause)
  | ok record => rw [a.recordOf_of_outcome hout]

/-- What a poll comes to during which the running flag is cleared when a wait is over and nothing
was collected, and not before: it has the given result, takes the given events, and leaves the given
events and the given fault in the bridge. -/
structure ComesTo (a : Assembler) (h : Hub) (result : Except FeedError (List FeedRecord))
    (events queue : List Event) (fault : Option String) : Prop where
  result : (a.pollUntilStopped h).1 = .done result
  taken : taken (h.since (a.pollUntilStopped h).2) = events
  bridge : (a.pollUntilStopped h).2.bridge = some ⟨queue, fault⟩

/-- A poll that is over without waiting in vain. -/
lemma comesTo_of_done {result : Except FeedError (List FeedRecord)} {events : List Event}
    (hp : a.poll h = (.done result, l)) (hl : l.Alone queue fault) (hq : h.Dequeues events l) :
    a.ComesTo h result events queue fault := by
  have hu : a.pollUntilStopped h = (.done result, l.setRunning false) := by
    rw [pollUntilStopped, hp]
  refine ⟨?_, ?_, ?_⟩
  · rw [hu]
  · rw [hu]
    exact hq.spec.2.1
  · rw [hu]
    exact hl.bridge

/-- A poll that waits in vain finds the flag cleared then. -/
lemma comesTo_of_waiting {events : List Event} (hp : a.poll h = (.waiting, l))
    (hl : l.Alone queue fault) (hq : h.Dequeues events l) :
    a.ComesTo h (.ok []) events queue fault := by
  have hs : (l.setRunning false).schedule = [] := hl.schedule
  have hr : Restrained (l.setRunning false).schedule := by
    rw [hs]
    exact nofun
  have hu : a.pollUntilStopped h =
      (.done (.ok []), ((l.setRunning false).record (.flagRead false)).setRunning false) := by
    rw [pollUntilStopped, hp]
    dsimp only
    rw [a.poll_of_clear hr rfl, Hub.yield_of_nil hs]
  have hnote : l.Dequeues []
      (((l.setRunning false).record (.flagRead false)).setRunning false) :=
    .noted rfl rfl rfl rfl rfl
  have htaken := (hq.trans hnote).spec.2.1
  refine ⟨?_, ?_, ?_⟩
  · rw [hu]
  · rw [hu, htaken, List.append_nil]
  · rw [hu]
    exact hl.bridge

/-- A poll that takes all that is within reach. -/
lemma comesTo_of_settled {batch : List FeedRecord} {events : List Event}
    (hp : a.poll h = (settled batch, l)) (hl : l.Alone queue fault) (hq : h.Dequeues events l) :
    a.ComesTo h (.ok batch) events queue fault := by
  cases batch with
  | nil => exact comesTo_of_waiting hp hl hq
  | cons r batch => exact comesTo_of_done hp hl hq

/-- What a poll comes to that nobody disturbs, told in advance from the queue and the fault slot. As
long as no fault waits it takes the events within reach and returns their records, or it ends with
the first event that fails, if that is within reach of a poll for which the queue ends there. If a
fault waits it takes one event, if there is one, and fails with what became of that event; or it
returns the one record that the batch has room for, and the fault goes on waiting; or else it fails
with the fault. -/
theorem poll_closed_form (a : Assembler) {h : Hub} {queue : List Event} {fault : Option String}
    (hh : h.Alone queue fault) :
    (∀ e g, (a.process e g).1 = a.outcome e) ∧
    (fault = none → (∀ e ∈ queue.take (a.reach queue), ∀ cause, a.outcome e ≠ .error cause) →
      a.ComesTo h (.ok ((queue.take (a.reach queue)).filterMap a.recordOf))
        (queue.take (a.reach queue)) (queue.drop (a.reach queue)) none) ∧
    (fault = none → ∀ before e rest cause, queue = before ++ e :: rest →
      (∀ x ∈ before, ∀ cause, a.outcome x ≠ .error cause) → a.outcome e = .error cause →
      before.length + 1 ≤ a.reach (before ++ [e]) →
      a.ComesTo h (.error cause) (before ++ [e]) rest none) ∧
    (∀ text, fault = some text →
      (queue = [] → a.ComesTo h (.error (.fatal text)) [] [] none) ∧
      ∀ e rest, queue = e :: rest →
        (∀ cause, a.outcome e = .error cause →
          a.ComesTo h (.error cause) [e] rest (some text)) ∧
        (∀ r, a.outcome e = .ok (some r) → a.limit.1 = 1 →
          a.ComesTo h (.ok [r]) [e] rest (some text)) ∧
        (∀ record, a.outcome e = .ok record → record = none ∨ a.limit.1 ≠ 1 →
          a.ComesTo h (.error (.fatal text)) [e] rest none)) := by
  have hroom : ([] : List FeedRecord) ≠ [] → 0 < a.limit.1 := fun _ => a.limit.2
  have hg := hh.of_notes (.record (.flagRead true))
  have hnote : h.Dequeues [] (h.record (.flagRead true)) := Hub.dequeues_note rfl h
  refine ⟨a.process_fst, ?_, ?_, ?_⟩
  · rintro rfl hok
    obtain ⟨l, hp, hl, hq⟩ :=
      pollFrom_succeeds hh hroom fun e he => outcome_of_ne_error (hok e he)
    exact comesTo_of_settled hp hl hq
  · rintro rfl before e rest cause rfl hok ho hlt
    have hreach : a.reach (before ++ [e]) ≤ a.reach (before ++ e :: rest) := by
      rw [List.append_cons before e rest]
      exact reach_le_append _ rest
    obtain ⟨l, hp, hl, hq⟩ :=
      pollFrom_fails hh hroom (fun x hx => outcome_of_ne_error (hok x hx)) ho
        (Nat.lt_of_lt_of_le hlt hreach)
    exact comesTo_of_done hp hl hq
  · rintro text rfl
    refine ⟨?_, ?_⟩
    · rintro rfl
      obtain ⟨l, hround, hl, hq⟩ := a.round_idle_fault a.limit.1 hg
      exact comesTo_of_done (pollFrom_of_ends hh.readFlag hround) hl (hnote.trans hq)
    · rintro e rest rfl
      refine ⟨?_, ?_, ?_⟩
      · intro cause ho
        obtain ⟨l, hround, hl, hq⟩ := a.round_failed a.limit.1 [] hg ho
        exact comesTo_of_done (pollFrom_of_ends hh.readFlag hround) hl (hnote.trans hq)
      · intro r ho hone
        have hc : Complete false (a.limit.1 - 1) ([] ++ (some r).toList) :=
          ⟨List.cons_ne_nil _ _, .inl (by omega)⟩
        obtain ⟨l, hround, hl, hq⟩ := a.round_full hg ho hc
        exact comesTo_of_done (pollFrom_of_ends hh.readFlag hround) hl (hnote.trans hq)
      · intro record ho hopen
        have hpos := a.limit.2
        have hc : ¬ Complete false (a.limit.1 - 1) ([] ++ record.toList) := by
          rintro ⟨hne, hz⟩
          have hone : a.limit.1 = 1 := by
            have := hz.resolve_right Bool.false_ne_true
            omega
          obtain rfl := hopen.resolve_right (not_not.2 hone)
          exact hne rfl
        obtain ⟨l, hl, hq, hround⟩ := a.round_open hg ho hc
        exact comesTo_of_done (pollFrom_of_ends hh.readFlag hround) hl (hnote.trans hq)

open Doubles

/-- A limit of one event is overdrawn if the first two are passed over: a poll takes three, and the
fourth goes on waiting. With room for two records a fault that waits is not passed over. -/
theorem poll_closed_form_mixed :
    (∃ queue, mixed.Alone queue none ∧ queue.length = 4 ∧ choosy.reach queue = 3 ∧
      choosy.ComesTo mixed (.ok ((queue.take 3).filterMap choosy.recordOf)) (queue.take 3)
        [mutation 0 4] none) ∧
    faulty.Alone [mutation 0 1] (some "connection lost") ∧
    (copying ⟨2, by decide⟩).ComesTo faulty (.error (.fatal "connection lost")) [mutation 0 1] []
      none := by
  have hmixed : mixed.Alone
      [event .deletion 0 1, event .expiration 0 2, mutation 0 3, mutation 0 4] none := by
    refine ⟨rfl, rfl, rfl, ?_⟩
    simp [mutation, event, eventWith]
  have hreach : choosy.reach
      [event .deletion 0 1, event .expiration 0 2, mutation 0 3, mutation 0 4] = 3 := by
    decide +kernel
  have hok : ∀ e ∈ [event .deletion 0 1, event .expiration 0 2, mutation 0 3],
      (choosy.outcome e).isOk = true := by
    decide +kernel
  have hfaulty : faulty.Alone [mutation 0 1] (some "connection lost") := by
    refine ⟨rfl, rfl, rfl, ?_⟩
    simp [mutation, event, eventWith]
  obtain ⟨-, hsucceeds, -, -⟩ := choosy.poll_closed_form hmixed
  obtain ⟨-, -, -, hfault⟩ := (copying ⟨2, by decide⟩).poll_closed_form hfaulty
  rw [hreach] at hsucceeds
  refine ⟨⟨_, hmixed, rfl, hreach, hsucceeds rfl ?_⟩, hfaulty, ?_⟩
  · intro e he cause ho
    have hisOk := hok e he
    rw [ho] at hisOk
    cases hisOk
  · obtain ⟨-, -, hfatal⟩ := (hfault _ rfl).2 _ _ rfl
    exact hfatal (some _) rfl (.inr (by decide))

end Assembler

end ChangeFeed
