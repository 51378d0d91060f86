import ChangeFeed.Doubles
import ChangeFeed.Proofs.Batch.Path
import ChangeFeed.Proofs.Hub.Queue

/-!
# Polls and the stream of events

What becomes of an event when it is processed depends on the event alone. A run of polls therefore
works like one pass over the events that it takes from the bridge, whatever the limit of its batches
and whatever other threads do meanwhile: `Collects` says so of every part of a poll, and a round, a
poll and a run of polls are put together from such parts.
-/

namespace ChangeFeed

/-- What was noted between two hubs of a run. -/
def Hub.since (h k : Hub) : List Entry :=
  k.journal.drop h.journal.length

/-- What waits in the bridge, followed by what the bridge took until the second hub. -/
def Hub.arrivals (h k : Hub) : List Event :=
  h.resident ++ accepted (h.since k)

/-- The journal grows by what was noted since, and what arrived is what was taken followed by what
still waits. -/
lemma Hub.Dequeues.spec {h k : Hub} {events : List Event} (hd : h.Dequeues events k) :
    k.journal = h.journal ++ h.since k ∧ taken (h.since k) = events ∧
      h.arrivals k = events ++ k.resident := by
  obtain ⟨new, hj, ht, hq⟩ := hd.queue
  have hs : h.since k = new := by simp [since, hj]
  refine ⟨?_, ?_, ?_⟩
  · rw [hs, hj]
  · rw [hs, ht]
  · rw [arrivals, hs, hq]

namespace Assembler

variable (a : Assembler)

/-- The record of an event: none if it is filtered out, dropped or cannot be converted. -/
def recordOf (e : Event) : Option FeedRecord :=
  match a.pipeline.result e with
  | .error _ => none
  | .ok converted => converted.map a.feedRecord

/-- What becomes of an event that is processed. -/
def outcome (e : Event) : Except FeedError (Option FeedRecord) :=
  match a.pipeline.result e with
  | .error cause => .error (.pipeline cause)
  | .ok _ =>
    match e.message.releaseError? with
    | some cause => .error (.release cause)
    | none => .ok (a.recordOf e)

/-- An event that does not fail gives its record. -/
lemma recordOf_of_outcome {e : Event} {record : Option FeedRecord}
    (ho : a.outcome e = .ok record) : a.recordOf e = record := by
  unfold outcome at ho
  split at ho
  · cases ho
  · split at ho
    · cases ho
    · exact Except.ok.inj ho

end Assembler

/-- Releasing a message ends in the failure of its buffer. -/
lemma Hub.release_fst (m : Message) (h : Hub) :
    (h.release m).1 = match m.releaseError? with
      | none => .ok ()
      | some cause => .error cause := by
  unfold release
  cases hb : m.buffer with
  | none => simp [Message.releaseError?, hb]
  | some b =>
    cases hr : m.releaseError? <;> rfl

/-- The records that a poll gave, unless it failed; one that still waits has none. -/
def Poll.batch? : Poll → Option (List FeedRecord)
  | .done (.ok records) => some records
  | .done (.error _) => none
  | .waiting => some []

namespace Assembler

variable (a : Assembler) {h k l : Hub} {events more : List Event}
  {records middle : List FeedRecord} {batch : Option (List FeedRecord)}

/-- Processing an event comes to its outcome, whatever the hub. -/
lemma process_fst (e : Event) (h : Hub) : (a.process e h).1 = a.outcome e := by
  have hp := a.pipeline.run_fst e h
  unfold process outcome recordOf
  split
  · rename_i cause k hk
    rw [hk] at hp
    rw [← hp]
  · rename_i converted k hk
    rw [hk] at hp
    rw [← hp]
    have hr := (k.acknowledge e).yield.release_fst e.message
    cases hm : e.message.releaseError? with
    | none =>
      split <;> rename_i heq
      · rw [heq, hm] at hr
        cases hr
      · rfl
    | some cause =>
      split <;> rename_i heq <;> rw [heq, hm] at hr
      · obtain rfl := Except.error.inj hr
        rfl
      · cases hr

/-- Between two hubs the given events were taken, and unless something failed none of them failed
and their records were added to those collected before. -/
structure Collects (events : List Event) (h k : Hub) (records : List FeedRecord)
    (batch : Option (List FeedRecord)) : Prop where
  dequeues : h.Dequeues events k
  outcomes : ∀ b ∈ batch, (∀ e ∈ events, a.outcome e = .ok (a.recordOf e)) ∧
    b = records ++ events.filterMap a.recordOf

namespace Collects

variable {a}

/-- What takes no event collects nothing. -/
lemma nothing (hd : h.Dequeues [] k) : a.Collects [] h k records (some records) := by
  refine ⟨hd, ?_⟩
  rintro b ⟨⟩
  exact ⟨by simp, by simp⟩

/-- A failure promises nothing about the records. -/
lemma failed (hd : h.Dequeues events k) : a.Collects events h k records none :=
  ⟨hd, fun _ hb => by cases hb⟩

/-- An event that does not fail adds its record. -/
lemma one {e : Event} {record : Option FeedRecord} (hd : h.Dequeues [e] k)
    (ho : a.outcome e = .ok record) :
    a.Collects [e] h k records (some (records ++ record.toList)) := by
  refine ⟨hd, ?_⟩
  rintro b ⟨⟩
  obtain rfl := a.recordOf_of_outcome ho
  refine ⟨?_, ?_⟩
  · simpa using ho
  · cases hr : a.recordOf e <;> simp [hr]

/-- What is collected from nothing can be added to what was collected before. -/
lemma after (hk : a.Collects events h k [] batch) :
    a.Collects events h k records (batch.map (records ++ ·)) := by
  refine ⟨hk.dequeues, ?_⟩
  intro b hb
  obtain ⟨own, hown, rfl⟩ := Option.map_eq_some_iff.1 hb
  obtain ⟨ho, rfl⟩ := hk.outcomes own hown
  exact ⟨ho, rfl⟩

/-- What comes later is added to what was collected first. -/
lemma trans (hk : a.Collects events h k records (some middle))
    (kl : a.Collects more k l middle batch) : a.Collects (events ++ more) h l records batch := by
  refine ⟨hk.dequeues.trans kl.dequeues, ?_⟩
  intro b hb
  obtain ⟨ho1, rfl⟩ := hk.outcomes middle rfl
  obtain ⟨ho2, rfl⟩ := kl.outcomes b hb
  refine ⟨?_, ?_⟩
  · intro e he
    rcases List.mem_append.1 he with he | he
    · exact ho1 e he
    · exact ho2 e he
  · rw [List.filterMap_append, List.append_assoc]

/-- What takes no event may come afterwards. -/
lemma and_then (hk : a.Collects events h k records batch) (kl : k.Dequeues [] l) :
    a.Collects events h l records batch := by
  refine ⟨?_, hk.outcomes⟩
  simpa using hk.dequeues.trans kl

end Collects

/-- The records that a round leaves off with. -/
def Round.batch? : Round → Option (List FeedRecord)
  | .ends poll => poll.batch?
  | .goesOn _ records => some records

/-- A round of a poll collects. -/
lemma collects_round (remaining : Nat) (records : List FeedRecord) (h : Hub) :
    ∃ events, a.Collects events h (a.round remaining records h).2 records
      (a.round remaining records h).1.batch? := by
  unfold round
  split
  · rename_i e k hd
    have hp := Hub.dequeues_dequeue_some hd
    have ho := a.process_fst e k
    have hr := (a.reaches_process (h := k) (s := 0) (g := 0) e).dequeues_nil
    have hl : h.Dequeues [e] (a.process e k).2 := by simpa using hp.trans hr
    refine ⟨[e], ?_⟩
    split
    · rename_i cause l hc
      rw [hc] at hl
      exact .failed hl
    · rename_i record l hc
      rw [hc] at hl ho
      have hone : a.Collects [e] h l records (some (records ++ record.toList)) := .one hl ho.symm
      have ht := Hub.dequeues_takeFault l
      dsimp only
      split
      · exact hone.and_then (Hub.reaches_log (s := 0) (g := 0) _).dequeues_nil
      · split <;> rename_i hf <;> rw [hf] at ht
        · exact .failed (hone.and_then ht).dequeues
        · exact hone.and_then ht
  · rename_i k hd
    have hk : a.Collects [] h k records (some records) := .nothing (Hub.dequeues_dequeue_none hd)
    have ht := Hub.dequeues_takeFault k
    refine ⟨[], ?_⟩
    split
    · exact hk.and_then (Hub.reaches_log (s := 0) (g := 0) _).dequeues_nil
    · rename_i hn
      split <;> rename_i hf <;> rw [hf] at ht
      · exact .failed (hk.and_then ht).dequeues
      · split
        · -- nothing was collected yet, which is what a poll that waits reports
          obtain rfl : records = [] := by simpa using hn
          exact hk.and_then ht
        · exact hk.and_then ht

/-- A poll with a batch in hand collects the records of the events that it takes. -/
lemma collects_pollFrom (remaining : Nat) (records : List FeedRecord) (h : Hub) :
    ∃ events, a.Collects events h (a.pollFrom remaining records h).2 records
      (a.pollFrom remaining records h).1.batch? := by
  have hf : a.Collects [] h h.readFlag.2 records (some records) :=
    .nothing (Hub.reaches_readFlag (s := 0) (g := 0)).dequeues_nil
  -- one case for each way in which a round ends; a round that goes on is followed by the rest
  fun_induction pollFrom a remaining records h with
  | case1 remaining records h k hk =>
    rw [hk] at hf
    exact ⟨[], hf⟩
  | case2 remaining records h k hk poll l hr =>
    rw [hk] at hf
    obtain ⟨events, hc⟩ := a.collects_round remaining records k
    rw [hr] at hc
    exact ⟨_, hf.trans hc⟩
  | case3 remaining records h k hk remaining' records' l hr ih =>
    rw [hk] at hf
    obtain ⟨events, hc⟩ := a.collects_round remaining records k
    rw [hr] at hc
    obtain ⟨more, hm⟩ := ih (.nothing (Hub.reaches_readFlag (s := 0) (g := 0)).dequeues_nil)
    exact ⟨_, hf.trans (hc.trans hm)⟩

/-- Polls once for each list of moves, which other threads make before the poll. -/
def polls : List (List Move) → Hub → List Poll × Hub
  | [], h => ([], h)
  | ms :: rest, h =>
    let (poll, k) := a.poll (Hub.moves ms h)
    let (more, l) := polls rest k
    (poll :: more, l)

/-- Polls after a first one. -/
lemma polls_cons (ms : List Move) (others : List (List Move)) (h : Hub) :
    a.polls (ms :: others) h =
      ((a.poll (Hub.moves ms h)).1 :: (a.polls others (a.poll (Hub.moves ms h)).2).1,
        (a.polls others (a.poll (Hub.moves ms h)).2).2) := rfl

/-- Polls after polls. -/
lemma polls_append (others more : List (List Move)) (h : Hub) :
    a.polls (others ++ more) h =
      ((a.polls others h).1 ++ (a.polls more (a.polls others h).2).1,
        (a.polls more (a.polls others h).2).2) := by
  induction others generalizing h with
  | nil => rfl
  | cons ms rest ih => simp only [List.cons_append, polls_cons, ih]

/-- The records of all batches of polls in a row; none if one of the polls failed. -/
def gathered (results : List Poll) : Option (List FeedRecord) :=
  (results.mapM Poll.batch?).map List.flatten

/-- What polls gather is what the first gathers, and then the others. -/
lemma gathered_cons (poll : Poll) (results : List Poll) :
    gathered (poll :: results) =
      poll.batch?.bind fun first => (gathered results).map (first ++ ·) := by
  cases hp : poll.batch? <;> cases hr : results.mapM Poll.batch? <;>
    simp [gathered, List.mapM_cons, hp, hr]

/-- Polls collect the records of the events that they take. -/
lemma collects_polls (others : List (List Move)) (h : Hub) :
    ∃ events, a.Collects events h (a.polls others h).2 [] (gathered (a.polls others h).1) := by
  induction others generalizing h with
  | nil => exact ⟨[], .nothing .refl⟩
  | cons ms rest ih =>
    have hm : h.Dequeues [] (Hub.moves ms h) :=
      (Hub.reaches_moves (s := 0) (g := 0) ms).dequeues_nil
    obtain ⟨events, hp⟩ := a.collects_pollFrom a.limit.1 [] (Hub.moves ms h)
    obtain ⟨more, hr⟩ := ih (a.poll (Hub.moves ms h)).2
    rw [polls_cons, gathered_cons]
    refine ⟨[] ++ (events ++ more), ?_⟩
    cases hb : (a.poll (Hub.moves ms h)).1.batch? with
    | none => exact .failed (hm.trans (hp.dequeues.trans hr.dequeues))
    | some first =>
      have hp' : a.Collects events (Hub.moves ms h) (a.poll (Hub.moves ms h)).2 []
          (some first) := hb ▸ hp
      exact (Collects.nothing hm).trans (hp'.trans hr.after)

/-- What is gathered by a run in which no poll failed. -/
lemma gathered_polls {others : List (List Move)} {records : List FeedRecord}
    (hr : gathered (a.polls others h).1 = some records) :
    records = (taken (h.since (a.polls others h).2)).filterMap a.recordOf ∧
      ∀ e ∈ taken (h.since (a.polls others h).2), a.outcome e = .ok (a.recordOf e) := by
  obtain ⟨events, hc⟩ := a.collects_polls others h
  obtain ⟨-, ht, -⟩ := hc.dequeues.spec
  obtain ⟨ho, hb⟩ := hc.outcomes records hr
  rw [ht]
  exact ⟨by simpa using hb, ho⟩

/-- A run of polls, failing or not, takes events in the order in which they arrived and leaves the
others where they are, whatever other threads do before and during each poll. If no poll fails, the
batches put together are the records of the events taken, each converted as it is when it is
processed alone, on any hub; so that they depend neither on the limit of the batches nor on where a
batch ended. -/
theorem polls_lossless (others : List (List Move)) (h : Hub) :
    (a.polls others h).2.journal = h.journal ++ h.since (a.polls others h).2 ∧
    h.arrivals (a.polls others h).2 =
      taken (h.since (a.polls others h).2) ++ (a.polls others h).2.resident ∧
    (∀ records, gathered (a.polls others h).1 = some records →
      records = (taken (h.since (a.polls others h).2)).filterMap a.recordOf ∧
      ∀ e ∈ taken (h.since (a.polls others h).2), ∀ g, (a.process e g).1 = .ok (a.recordOf e)) ∧
    (∀ (limit : BatchLimit) (others' : List (List Move)) (h' : Hub) records records',
      gathered (a.polls others h).1 = some records →
      gathered ({ a with limit }.polls others' h').1 = some records' →
      taken (h'.since ({ a with limit }.polls others' h').2) =
        taken (h.since (a.polls others h).2) →
      records' = records) := by
  obtain ⟨events, hc⟩ := a.collects_polls others h
  obtain ⟨hj, ht, hq⟩ := hc.dequeues.spec
  refine ⟨hj, ?_, ?_, ?_⟩
  · rw [ht]
    exact hq
  · intro records hr
    obtain ⟨rfl, ho⟩ := a.gathered_polls hr
    refine ⟨rfl, ?_⟩
    intro e he g
    rw [a.process_fst]
    exact ho e he
  · intro limit others' h' records records' hr hr' hsame
    obtain ⟨rfl, -⟩ := a.gathered_polls hr
    obtain ⟨rfl, -⟩ := { a with limit }.gathered_polls hr'
    -- the record of an event does not depend on the limit
    have hrec : { a with limit }.recordOf = a.recordOf := rfl
    rw [hsame, hrec]

open Doubles

/-- An assembler of batches of one record that passes over removals. -/
def choosy : Assembler :=
  ⟨⟨some .ignoreDeletes, .rawJson, "travel", "travel-topic"⟩, ⟨"travel", none⟩, ⟨1, by decide⟩⟩

/-- A hub at which a feed is running, with two removals and two mutations in its bridge. -/
def mixed : Hub :=
  { Hub.idle .none with
    bridge := some ⟨[event .deletion 0 1, event .expiration 0 2, mutation 0 3, mutation 0 4], none⟩
    running := true }

/-- What the bridge took since is what was handed over: if nothing was, and nothing is left, all
that waited was taken. -/
lemma taken_of_emptied {others : List (List Move)}
    (ha : accepted (h.since (a.polls others h).2) = [])
    (hr : (a.polls others h).2.resident = []) :
    taken (h.since (a.polls others h).2) = h.resident := by
  obtain ⟨events, hc⟩ := a.collects_polls others h
  obtain ⟨-, ht, hq⟩ := hc.dequeues.spec
  rw [Hub.arrivals, ha, hr, List.append_nil, List.append_nil] at hq
  rw [ht, hq]

/-- Two polls of a batch of one record each gather the records that one poll without such a limit
does. -/
theorem polls_lossless_mixed :
    ∃ records, records.length = 2 ∧ gathered (choosy.polls [[], []] mixed).1 = some records ∧
      gathered ({ choosy with limit := ⟨10, by decide⟩ }.polls [[]] mixed).1 = some records := by
  have hnarrow : (gathered (choosy.polls [[], []] mixed).1).map List.length = some 2 := by
    decide +kernel
  have hwide : (gathered ({ choosy with limit := ⟨10, by decide⟩ }.polls [[]] mixed).1).isSome := by
    decide +kernel
  obtain ⟨records, hr, hn⟩ := Option.map_eq_some_iff.1 hnarrow
  obtain ⟨records', hr'⟩ := Option.isSome_iff_exists.1 hwide
  -- either run takes all that waits in the bridge
  have htaken : taken (mixed.since (choosy.polls [[], []] mixed).2) = mixed.resident := by
    apply taken_of_emptied <;> apply List.eq_nil_of_length_eq_zero <;> decide +kernel
  have htaken' : taken (mixed.since ({ choosy with limit := ⟨10, by decide⟩ }.polls [[]] mixed).2) =
      mixed.resident := by
    apply taken_of_emptied <;> apply List.eq_nil_of_length_eq_zero <;> decide +kernel
  obtain ⟨-, -, -, hsame⟩ := choosy.polls_lossless [[], []] mixed
  have heq : records' = records :=
    hsame _ [[]] mixed records records' hr hr' (htaken'.trans htaken.symm)
  exact ⟨records, hn, hr, heq ▸ hr'⟩

end Assembler

end ChangeFeed
