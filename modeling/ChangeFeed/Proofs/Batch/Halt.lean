import ChangeFeed.Proofs.Hub.Signal

/-!
# How a poll comes to a halt

A poll is taken apart into the operations of its hub: it reads the flag, waits for an event,
processes it and looks for a fault, and other threads may act before each of these. `advance` does
one of them, and `goes_poll` says that a poll is what comes of doing one after the other. So a
signal that comes at any point of a poll comes during one of them. `ends_of_signalled` is what
becomes of the poll then: it takes no event any more, and it is over at the latest after an event
that it had in hand was processed, a fault was looked for and the flag was read.
-/

namespace ChangeFeed

/-- Where a poll is between two operations of its hub. -/
inductive Phase where
  | heading (remaining : Nat) (records : List FeedRecord)
  | awaiting (remaining : Nat) (records : List FeedRecord)
  | attending (remaining : Nat) (records : List FeedRecord) (event : Event)
  | looking (remaining : Nat) (records : List FeedRecord)
  | returned (result : Except FeedError (List FeedRecord))

namespace Phase

/-- The event that was taken and is still to be processed. -/
def inHand : Phase → List Event
  | attending _ _ e => [e]
  | _ => []

/-- Whether an event is waited for. -/
def awaits : Phase → Bool
  | awaiting _ _ => true
  | _ => false

/-- How many operations it takes at most from the phase to the end, once the flag is clear. -/
def distance : Phase → Nat
  | returned _ => 0
  | heading _ _ => 1
  | looking _ _ => 2
  | attending _ _ _ => 3
  | awaiting _ _ => 4

/-- A phase in which nothing is waited for is three operations before the end at most. -/
lemma distance_le {p : Phase} (hp : p.awaits = false) : p.distance ≤ 3 := by
  cases p with
  | awaiting remaining records => cases hp
  | _ => simp [distance]

end Phase

/-- The phase in which a poll leaves off; one that waits goes on by reading the flag again. -/
def Poll.Leaves (poll : Poll) (phase : Phase) : Prop :=
  match poll with
  | .done result => phase = .returned result
  | .waiting => ∃ left, phase = .heading left []

/-- The phase in which a round leaves off. -/
def Assembler.Round.Leaves (round : Assembler.Round) (phase : Phase) : Prop :=
  match round with
  | .ends poll => poll.Leaves phase
  | .goesOn remaining records => phase = .heading remaining records

namespace Assembler

variable (a : Assembler)

/-- Does one operation of a poll. -/
def advance : Phase × Hub → Phase × Hub
  | (.heading remaining records, h) =>
    match h.readFlag with
    | (false, h) => (.returned (.ok records), h)
    | (true, h) => (.awaiting remaining records, h)
  | (.awaiting remaining records, h) =>
    match h.dequeue with
    | (some e, h) => (.attending remaining records e, h)
    | (none, h) =>
      if ¬ records.isEmpty then (.returned (.ok records), (finish records h).2)
      else (.looking remaining records, h)
  | (.attending remaining records e, h) =>
    match a.process e h with
    | (.error cause, h) => (.returned (.error cause), h)
    | (.ok record, h) =>
      let records := records ++ record.toList
      let remaining := remaining - 1
      if ¬ records.isEmpty ∧ remaining = 0 then (.returned (.ok records), (finish records h).2)
      else (.looking remaining records, h)
  | (.looking remaining records, h) =>
    match h.takeFault with
    | (some fault, h) => (.returned (.error (.fatal fault)), h)
    | (none, h) => (.heading remaining records, h)
  | (.returned result, h) => (.returned result, h)

/-- What operations of a poll come to one after the other. -/
def Goes (p q : Phase × Hub) : Prop :=
  ∃ n, a.advance^[n] p = q

variable {a}

namespace Goes

variable {p q r : Phase × Hub}

/-- An operation leads to the phase that comes after it. -/
lemma step (h : a.advance p = q) : a.Goes p q :=
  ⟨1, h⟩

/-- Operations after operations. -/
lemma trans (h : a.Goes p q) (k : a.Goes q r) : a.Goes p r := by
  obtain ⟨m, rfl⟩ := h
  obtain ⟨n, rfl⟩ := k
  exact ⟨n + m, Function.iterate_add_apply a.advance n m p⟩

end Goes

/-- The operations of a round, after the flag was read. -/
lemma goes_round (remaining : Nat) (records : List FeedRecord) (h : Hub) :
    ∃ phase, (a.round remaining records h).1.Leaves phase ∧
      a.Goes (.awaiting remaining records, h) (phase, (a.round remaining records h).2) := by
  unfold round
  split
  · rename_i e k hd
    have hwait : a.Goes (.awaiting remaining records, h) (.attending remaining records e, k) :=
      .step (by rw [advance, hd])
    split
    · rename_i cause l hp
      exact ⟨_, rfl, hwait.trans (.step (by rw [advance, hp]))⟩
    · rename_i record l hp
      dsimp only
      split
      · rename_i hc
        have hend : a.Goes (.attending remaining records e, k)
            (.returned (.ok (records ++ record.toList)), (finish (records ++ record.toList) l).2) :=
          .step (by simp only [advance, hp, if_pos hc])
        exact ⟨_, rfl, hwait.trans hend⟩
      · rename_i hc
        have hlook : a.Goes (.attending remaining records e, k)
            (.looking (remaining - 1) (records ++ record.toList), l) :=
          .step (by simp only [advance, hp, if_neg hc])
        split <;> rename_i hf
        · exact ⟨_, rfl, (hwait.trans hlook).trans (.step (by rw [advance, hf]))⟩
        · exact ⟨_, rfl, (hwait.trans hlook).trans (.step (by rw [advance, hf]))⟩
  · rename_i k hd
    split
    · rename_i hc
      exact ⟨_, rfl, .step (by rw [advance, hd]; exact if_pos hc)⟩
    · rename_i hc
      have hlook : a.Goes (.awaiting remaining records, h) (.looking remaining records, k) :=
        .step (by rw [advance, hd]; exact if_neg hc)
      obtain rfl : records = [] := by simpa using hc
      split <;> rename_i hf
      · exact ⟨_, rfl, hlook.trans (.step (by rw [advance, hf]))⟩
      · have hhead := hlook.trans (.step (by rw [advance, hf]))
        split
        · exact ⟨_, ⟨remaining, rfl⟩, hhead⟩
        · exact ⟨_, rfl, hhead⟩

/-- A poll with a batch in hand goes from its first phase to its end. -/
lemma goes_pollFrom (remaining : Nat) (records : List FeedRecord) (h : Hub) :
    ∃ phase, (a.pollFrom remaining records h).1.Leaves phase ∧
      a.Goes (.heading remaining records, h) (phase, (a.pollFrom remaining records h).2) := by
  -- one case for each way in which a round ends; a round that goes on is followed by the rest
  fun_induction pollFrom a remaining records h with
  | case1 remaining records h k hk => exact ⟨_, rfl, .step (by rw [advance, hk])⟩
  | case2 remaining records h k hk poll l hr =>
    obtain ⟨phase, hl, hg⟩ := a.goes_round remaining records k
    rw [hr] at hl hg
    exact ⟨phase, hl, Goes.trans (.step (by rw [advance, hk])) hg⟩
  | case3 remaining records h k hk remaining' records' l hr ih =>
    obtain ⟨phase, hl, hg⟩ := a.goes_round remaining records k
    rw [hr] at hl hg
    obtain rfl : phase = .heading remaining' records' := hl
    obtain ⟨last, hlast, hrest⟩ := ih
    exact ⟨last, hlast, (Goes.trans (.step (by rw [advance, hk])) hg).trans hrest⟩

/-- A poll is what comes of its operations. -/
lemma goes_poll (a : Assembler) (h : Hub) :
    ∃ phase, (a.poll h).1.Leaves phase ∧
      a.Goes (.heading a.limit.1 [], h) (phase, (a.poll h).2) :=
  goes_pollFrom a.limit.1 [] h

/-- Running the pipeline heeds signals. -/
lemma heeds_run (p : Pipeline) (e : Event) (h : Hub) : Hub.Heeds [] h (p.run e h).2 := by
  have hf : Hub.Heeds [] h (p.recordFilter e.message h) := by
    unfold Pipeline.recordFilter
    split
    · exact .refl
    · exact (Hub.heeds_yield h).trans_nil (Hub.heeds_record _ _)
  unfold Pipeline.run
  split
  · exact hf
  · exact hf
  · exact hf.trans_nil ((Hub.heeds_yield _).trans_nil (Hub.heeds_record _ _))

/-- The hooks of an event are run if it is converted. -/
lemma heeds_process (a : Assembler) (e : Event) (h : Hub) :
    Hub.Heeds (hooksOf ([e].filter a.Converts)) h (a.process e h).2 := by
  have hrun := heeds_run a.pipeline e h
  have hres := a.pipeline.run_fst e h
  unfold process
  split
  · rename_i cause k hk
    rw [hk] at hrun hres
    have hc : a.Converts e = false := by
      rw [a.converts_eq, ← hres]
      rfl
    rw [List.filter_cons_of_neg (by simp [hc])]
    exact (hrun.trans_nil (Hub.heeds_yield k)).trans_nil (Hub.heeds_releaseOrLog _ _ _)
  · rename_i converted k hk
    rw [hk] at hrun hres
    have hc : a.Converts e = true := by
      rw [a.converts_eq, ← hres]
      rfl
    have hh : hooksOf [e] = e.hooks := by simp [hooksOf]
    have hl := ((hrun.nil_trans (Hub.heeds_acknowledge e k)).trans_nil
      (Hub.heeds_yield _)).trans_nil (Hub.heeds_release e.message _)
    rw [List.filter_cons_of_pos hc, List.filter_nil, hh]
    split <;> rename_i heq <;> rw [heq] at hl <;> exact hl

/-- What one operation makes of a phase, at the hub that it leaves. -/
inductive Advances (a : Assembler) : Phase → Hub → Phase → Hub → Prop where
  | stops {remaining records h k} :
    h.readFlag = (false, k) →
    Advances a (.heading remaining records) h (.returned (.ok records)) k
  | goesOn {remaining records h k} :
    h.readFlag = (true, k) →
    Advances a (.heading remaining records) h (.awaiting remaining records) k
  | takes {remaining records e h k} :
    h.dequeue = (some e, k) →
    Advances a (.awaiting remaining records) h (.attending remaining records e) k
  | idle {remaining records h k} :
    h.dequeue = (none, k) →
    ¬ records.isEmpty →
    Advances a (.awaiting remaining records) h (.returned (.ok records)) (finish records k).2
  | waits {remaining records h k} :
    h.dequeue = (none, k) →
    records.isEmpty →
    Advances a (.awaiting remaining records) h (.looking remaining records) k
  | fails {remaining records e cause h k} :
    a.process e h = (.error cause, k) →
    Advances a (.attending remaining records e) h (.returned (.error cause)) k
  | full {remaining records e record h k} :
    a.process e h = (.ok record, k) →
    ¬ (records ++ record.toList).isEmpty ∧ remaining - 1 = 0 →
    Advances a (.attending remaining records e) h (.returned (.ok (records ++ record.toList)))
      (finish (records ++ record.toList) k).2
  | attends {remaining records e record h k} :
    a.process e h = (.ok record, k) →
    ¬ (¬ (records ++ record.toList).isEmpty ∧ remaining - 1 = 0) →
    Advances a (.attending remaining records e) h
      (.looking (remaining - 1) (records ++ record.toList)) k
  | fault {remaining records fault h k} :
    h.takeFault = (some fault, k) →
    Advances a (.looking remaining records) h (.returned (.error (.fatal fault))) k
  | clear {remaining records h k} :
    h.takeFault = (none, k) →
    Advances a (.looking remaining records) h (.heading remaining records) k
  | returned {result h} :
    Advances a (.returned result) h (.returned result) h

/-- An operation does what its phase says. -/
lemma advances (a : Assembler) (p : Phase) (h : Hub) :
    a.Advances p h (a.advance (p, h)).1 (a.advance (p, h)).2 := by
  cases p with
  | heading remaining records =>
    rw [advance]
    split <;> rename_i hk
    · exact .stops hk
    · exact .goesOn hk
  | awaiting remaining records =>
    rw [advance]
    split <;> rename_i hk
    · exact .takes hk
    · split <;> rename_i hc
      · exact .idle hk hc
      · exact .waits hk (not_not.1 hc)
  | attending remaining records e =>
    rw [advance]
    split <;> rename_i hk
    · exact .fails hk
    · dsimp only
      split <;> rename_i hc
      · exact .full hk hc
      · exact .attends hk hc
  | looking remaining records =>
    rw [advance]
    split <;> rename_i hk
    · exact .fault hk
    · exact .clear hk
  | returned result => exact .returned

section

variable {p q : Phase} {h k : Hub}

namespace Advances

/-- An operation takes an event only if it waits for one, and acknowledges none but the event in
hand. -/
lemma adds (hq : a.Advances p h q k) :
    ∃ own, Hub.Adds own h k ∧ acknowledged own = p.inHand.filter a.Converts ∧
      taken own = if p.awaits then q.inHand else [] := by
  have hprocess {e : Event} {result : Except FeedError (Option FeedRecord)} {k : Hub}
      (hk : a.process e h = (result, k)) :
      ∃ own, Hub.Adds own h k ∧ acknowledged own = [e].filter a.Converts ∧ taken own = [] := by
    obtain ⟨own, hb, ha⟩ := a.adds_process e h
    rw [hk] at ha
    exact ⟨own, ha, hb.acknowledged_eq, hb.taken_eq⟩
  cases hq with
  | stops hk | goesOn hk =>
    have hf := Hub.adds_readFlag h
    rw [hk] at hf
    exact ⟨_, hf, rfl, rfl⟩
  | takes hk => exact ⟨_, Hub.adds_dequeue_some hk, rfl, rfl⟩
  | idle hk _ => exact ⟨_, (Hub.adds_dequeue_none hk).trans (Hub.adds_log _ _), rfl, rfl⟩
  | waits hk _ => exact ⟨_, Hub.adds_dequeue_none hk, rfl, rfl⟩
  | fails hk | attends hk _ => exact hprocess hk
  | full hk _ =>
    obtain ⟨own, ha, hack, htaken⟩ := hprocess hk
    refine ⟨_, ha.trans (Hub.adds_log _ _), ?_, ?_⟩
    · rw [acknowledged_append, hack]
      exact List.append_nil _
    · rw [taken_append, htaken]
      rfl
  | fault hk | clear hk =>
    have ht := Hub.adds_takeFault h
    rw [hk] at ht
    exact ⟨_, ht, rfl, rfl⟩
  | returned => exact ⟨[], .refl, rfl, rfl⟩

/-- An operation heeds signals, those of the event in hand included. -/
lemma heeds (hq : a.Advances p h q k) :
    Hub.Heeds (hooksOf (p.inHand.filter a.Converts)) h k := by
  have hprocess {e : Event} {result : Except FeedError (Option FeedRecord)} {k : Hub}
      (hk : a.process e h = (result, k)) : Hub.Heeds (hooksOf ([e].filter a.Converts)) h k := by
    have hh := a.heeds_process e h
    rwa [hk] at hh
  have hdequeue {event : Option Event} {k : Hub} (hk : h.dequeue = (event, k)) :
      Hub.Heeds [] h k := by
    have hh := Hub.heeds_dequeue h
    rwa [hk] at hh
  cases hq with
  | stops hk | goesOn hk =>
    have hh := Hub.heeds_readFlag h
    rwa [hk] at hh
  | takes hk | waits hk _ => exact hdequeue hk
  | idle hk _ => exact (hdequeue hk).trans_nil (Hub.heeds_record _ _)
  | fails hk | attends hk _ => exact hprocess hk
  | full hk _ => exact (hprocess hk).trans_nil (Hub.heeds_record _ _)
  | fault hk | clear hk =>
    have hh := Hub.heeds_takeFault h
    rwa [hk] at hh
  | returned => exact .refl

/-- The flag is not found clear by an operation after which an event is waited for. -/
lemma awaits (hq : a.Advances p h q k) (hf : k.running = false) : q.awaits = false := by
  cases hq with
  | goesOn hk =>
    obtain ⟨hread, rfl⟩ := Prod.mk.inj hk
    cases hread.symm.trans hf
  | _ => rfl

/-- Only who waits for an event has one in hand next. -/
lemma inHand (hq : a.Advances p h q k) (hp : p.awaits = false) : q.inHand = [] := by
  cases hq with
  | takes _ => cases hp
  | _ => rfl

/-- With the flag clear every operation leads towards the end. -/
lemma distance (hq : a.Advances p h q k) (hf : k.running = false) :
    q.distance ≤ p.distance - 1 := by
  cases hq with
  | goesOn hk =>
    obtain ⟨hread, rfl⟩ := Prod.mk.inj hk
    cases hread.symm.trans hf
  | _ => simp [Phase.distance]

end Advances

end

/-- A signal that comes during an operation of a poll is heeded. -/
lemma clear_advance {p : Phase} {h : Hub} (hr : Restrained h.schedule)
    (hs : h.running = false ∨ h.Signalled (a.advance (p, h)).2) :
    (a.advance (p, h)).2.running = false := by
  have hh := (a.advances p h).heeds
  obtain ⟨own, ha, hack, -⟩ := (a.advances p h).adds
  obtain hf | hs := hs
  · exact hh.stays_clear hr hf
  · rw [← hack, ← acknowledged_since ha] at hh
    exact hh.clear_of_signalled hr hs

/-- After the given number of operations the poll is over, and meanwhile it took no event and
acknowledged none but the one in hand. -/
def Ends (a : Assembler) (n : Nat) (p : Phase) (h : Hub) : Prop :=
  ∃ result l own, a.advance^[n] (p, h) = (.returned result, l) ∧ Hub.Adds own h l ∧
    taken own = [] ∧ acknowledged own = p.inHand.filter a.Converts

section

variable {p q : Phase} {h k : Hub} {n remaining : Nat} {records : List FeedRecord}

/-- With the flag clear the head of the loop is the end. -/
lemma advance_heading (hr : Restrained h.schedule) (hf : h.running = false) :
    a.advance (.heading remaining records, h) =
      (.returned (.ok records), h.yield.record (.flagRead false)) := by
  rw [advance, Hub.readFlag_of_clear hr hf]

/-- Once the flag is clear and no event is waited for, the poll ends. -/
lemma ends_of_clear (hr : Restrained h.schedule) (hf : h.running = false) (hp : p.awaits = false)
    (hn : p.distance ≤ n) : a.Ends n p h := by
  -- on the operations that are left; none of them takes an event, and each leads towards the end
  induction n generalizing p h with
  | zero =>
    cases p with
    | returned result => exact ⟨result, h, [], rfl, .refl, rfl, rfl⟩
    | _ => cases hn
  | succ n ih =>
    have hq := a.advances p h
    have hk := hq.heeds.stays_clear hr hf
    obtain ⟨own, ha, hack, htaken⟩ := hq.adds
    have hd : (a.advance (p, h)).1.distance ≤ n := Nat.le_trans (hq.distance hk) (by omega)
    obtain ⟨result, l, more, hl, hm, hmt, hma⟩ := ih (hq.heeds.restrained hr) hk (hq.awaits hk) hd
    rw [hp] at htaken
    rw [hq.inHand hp, List.filter_nil] at hma
    refine ⟨result, l, own ++ more, ?_, ha.trans hm, ?_, ?_⟩
    · rw [Function.iterate_succ_apply]
      exact hl
    · rw [taken_append, htaken, hmt]
      rfl
    · rw [acknowledged_append, hack, hma, List.append_nil]

/-- After an operation during which a signal came the poll takes no event any more. -/
lemma ends_of_signalled (hr : Restrained h.schedule)
    (hs : h.running = false ∨ h.Signalled (a.advance (p, h)).2) :
    a.Ends 3 (a.advance (p, h)).1 (a.advance (p, h)).2 := by
  have hf := clear_advance hr hs
  have hq := a.advances p h
  have hp := hq.awaits hf
  exact ends_of_clear (hq.heeds.restrained hr) hf hp (Phase.distance_le hp)

/-- Operations one after the other heed the signals of the hooks that they run. -/
lemma Goes.heeds {p q : Phase × Hub} (hg : a.Goes p q) :
    ∃ own, Hub.Adds own p.2 q.2 ∧ Hub.Heeds (hooksOf (acknowledged own)) p.2 q.2 := by
  obtain ⟨n, rfl⟩ := hg
  induction n generalizing p with
  | zero => exact ⟨[], .refl, .refl⟩
  | succ n ih =>
    obtain ⟨own, ha, hack, -⟩ := (a.advances p.1 p.2).adds
    have hh := (a.advances p.1 p.2).heeds
    obtain ⟨more, hm, hr⟩ := ih (p := a.advance p)
    refine ⟨own ++ more, ha.trans hm, ?_⟩
    rw [acknowledged_append, hooksOf, List.flatMap_append, hack]
    exact hh.trans hr

end

/-- A poll that finds the flag clear returns an empty batch. -/
lemma poll_of_clear (a : Assembler) {h : Hub} (hr : Restrained h.schedule)
    (hf : h.running = false) :
    a.poll h = (.done (.ok []), h.yield.record (.flagRead false)) := by
  rw [poll, pollFrom, Hub.readFlag_of_clear hr hf]

/-- A poll heeds the signals that come while it lasts. -/
lemma heeds_poll (a : Assembler) (h : Hub) :
    Hub.Heeds (hooksOf (acknowledged (h.since (a.poll h).2))) h (a.poll h).2 := by
  obtain ⟨phase, -, hg⟩ := a.goes_poll h
  obtain ⟨own, ha, hh⟩ := hg.heeds
  rw [acknowledged_since ha]
  exact hh

/-- How a poll halts that was begun at a hub. -/
structure Halting (a : Assembler) (h : Hub) : Prop where
  /-- The poll is what comes of its operations. -/
  goes : ∃ phase, (a.poll h).1.Leaves phase ∧
    a.Goes (.heading a.limit.1 [], h) (phase, (a.poll h).2)
  /-- Whichever operation a signal comes during, after it no event is taken, none is acknowledged
  but the one that was in hand, and the poll is over after three more operations. -/
  ends : ∀ p k, a.Goes (.heading a.limit.1 [], h) (p, k) →
    k.running = false ∨ k.Signalled (a.advance (p, k)).2 →
    ∃ result l, a.advance^[3] (a.advance (p, k)) = (.returned result, l) ∧
      taken ((a.advance (p, k)).2.since l) = [] ∧
      acknowledged ((a.advance (p, k)).2.since l) = (a.advance (p, k)).1.inHand.filter a.Converts
  /-- A poll that waits returns an empty batch as soon as the flag is clear. -/
  resumes : ∀ left k, Restrained k.schedule → k.running = false →
    a.advance (.heading left [], k) = (.returned (.ok []), k.yield.record (.flagRead false))

/-- Whatever comes during a poll, the poll halts. -/
lemma halting (a : Assembler) {h : Hub} (hr : Restrained h.schedule) : a.Halting h := by
  refine ⟨a.goes_poll h, ?_, fun _ _ => advance_heading⟩
  intro p k hg hs
  obtain ⟨own, -, hh⟩ := hg.heeds
  obtain ⟨result, l, more, hl, ha, htaken, hack⟩ := ends_of_signalled (hh.restrained hr) hs
  refine ⟨result, l, hl, ?_, ?_⟩
  · rw [taken_since ha, htaken]
  · rw [acknowledged_since ha, hack]

end Assembler

end ChangeFeed
