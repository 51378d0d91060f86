import ChangeFeed.Doubles
import ChangeFeed.Proofs.Batch.Stream
import ChangeFeed.Proofs.Offsets.Isolation

/-!
# Resuming from committed records

A record carries the position of its event in its maps. When the host commits the records of polls
in order, and at some time stops, then the positions read at the next start separate what was
committed from what was not: within each partition, an event lies at or before the position if its
record was committed, and after it if its record was discarded by a failing poll, or returned and
never committed. Nothing is skipped, and nothing is published twice.
-/

namespace ChangeFeed

/-- The position from which the events after this one are streamed. -/
def Event.position (e : Event) : Position :=
  ⟨e.message.seqno, some e.epoch⟩

/-- Within each partition the sequence numbers ascend. -/
def Ascending (events : List Event) : Prop :=
  events.Pairwise fun e f =>
    e.message.partition = f.message.partition → e.message.seqno < f.message.seqno

/-- Whether events ascend can be decided. -/
instance (events : List Event) : Decidable (Ascending events) :=
  inferInstanceAs (Decidable (events.Pairwise _))

/-- The last event of a partition. -/
def lastOf (p : UInt16) (events : List Event) : Option Event :=
  (events.filter fun e => e.message.partition = p).getLast?

variable {early late events : List Event} {e last : Event} {p : UInt16}

/-- Of a partition whose sequence numbers ascend, just the events of a beginning come no later than
the last one of this beginning. -/
lemma Ascending.le_last_iff (ha : Ascending (early ++ late)) (hl : lastOf p early = some last)
    (he : e ∈ early ++ late) (hp : e.message.partition = p) :
    e.message.seqno ≤ last.message.seqno ↔ e ∈ early := by
  obtain ⟨hearly, -, hacross⟩ := List.pairwise_append.1 ha
  obtain ⟨init, hi⟩ := List.getLast?_eq_some_iff.1 hl
  have hlast : last ∈ early.filter fun e => e.message.partition = p := by simp [hi]
  obtain ⟨hm, hq⟩ := List.mem_filter.1 hlast
  have hq : last.message.partition = p := by simpa using hq
  constructor
  · intro hle
    rcases List.mem_append.1 he with he | he
    · exact he
    · have hlt := hacross last hm e he (hq.trans hp.symm)
      exact absurd hle (UInt64.not_le.2 hlt)
  · intro he
    have hf : e ∈ init ++ [last] := by
      rw [← hi]
      exact List.mem_filter.2 ⟨he, by simpa using hp⟩
    rcases List.mem_append.1 hf with hf | hf
    · have hpw := hearly.filter fun e => e.message.partition = p
      rw [hi] at hpw
      have hlt := (List.pairwise_append.1 hpw).2.2 e hf last (by simp) (hp.trans hq.symm)
      exact UInt64.le_of_lt hlt
    · obtain rfl := List.mem_singleton.1 hf
      exact UInt64.le_refl _

namespace Assembler

variable (a : Assembler)

/-- The events that have a record. -/
def recorded (events : List Event) : List Event :=
  events.filter fun e => (a.recordOf e).isSome

/-- What the host commits with the record of an event. -/
def commitOf (e : Event) : Commit :=
  ⟨a.codec, e.message.partition, e.position⟩

/-- A record carries the partition and the position of its event. -/
lemma maps_recordOf {r : FeedRecord} (hr : a.recordOf e = some r) :
    r.sourcePartition = a.codec.sourcePartition e.message.partition ∧
      r.sourceOffset = Codec.sourceOffset e.position := by
  unfold recordOf at hr
  split at hr
  · cases hr
  · rename_i converted hc
    obtain ⟨c, rfl, rfl⟩ := Option.map_eq_some_iff.1 hr
    unfold Pipeline.result at hc
    split at hc
    · cases hc
    · cases hc
    · unfold Pipeline.convert at hc
      split at hc
      · cases hc
      · rename_i record _
        obtain ⟨o, -, rfl⟩ := Option.map_eq_some_iff.1 (Except.ok.inj hc)
        exact ⟨rfl, rfl⟩

/-- The first records are those of the first events that have one. -/
lemma filterMap_take_recorded (events : List Event) (n : Nat) :
    ((a.recorded events).take n).filterMap a.recordOf = (events.filterMap a.recordOf).take n := by
  induction events generalizing n with
  | nil => simp [recorded]
  | cons e rest ih =>
    cases hr : a.recordOf e with
    | none =>
      have hrest := ih n
      simp only [recorded, List.filter_cons, List.filterMap_cons, hr] at hrest ⊢
      exact hrest
    | some r =>
      cases n with
      | zero => simp
      | succ n =>
        have hrest := ih n
        simp only [recorded, List.filter_cons, List.filterMap_cons, hr, Option.isSome_some,
          if_true, List.take_succ_cons] at hrest ⊢
        rw [hrest]

/-- Committing the records of events commits their positions. -/
lemma foldl_commitRecord (events : List Event) (s : OffsetStore) :
    (events.filterMap a.recordOf).foldl OffsetStore.commitRecord s =
      s.commitAll ((a.recorded events).map a.commitOf) := by
  induction events generalizing s with
  | nil => rfl
  | cons e rest ih =>
    cases hr : a.recordOf e with
    | none =>
      have hrest := ih s
      simp only [recorded, List.filter_cons, List.filterMap_cons, hr] at hrest ⊢
      exact hrest
    | some r =>
      obtain ⟨hp, ho⟩ := a.maps_recordOf hr
      have hc : s.commitRecord r = s.commit a.codec e.message.partition e.position := by
        rw [OffsetStore.commitRecord, hp, ho, OffsetStore.commit]
      have hrest := ih (s.commit a.codec e.message.partition e.position)
      simp only [recorded, List.filter_cons, List.filterMap_cons, hr, Option.isSome_some, if_true,
        List.map_cons, OffsetStore.commitAll, List.foldl_cons, hc] at hrest ⊢
      exact hrest

/-- The latest commit for a partition is that of the last event of it. -/
lemma latest_map_commitOf (p : UInt16) (events : List Event) :
    Commit.latest a.codec p (events.map a.commitOf) = (lastOf p events).map Event.position := by
  have hfilter : (events.map a.commitOf).filter (fun x => x.codec = a.codec ∧ x.partition = p) =
      (events.filter fun e => e.message.partition = p).map a.commitOf := by
    rw [List.filter_map]
    congr 1
    apply List.filter_congr
    intro e _
    exact decide_eq_decide.2 (by simp [commitOf])
  rw [Commit.latest, hfilter, lastOf, List.getLast?_map, Option.map_map]
  rfl

/-- After the records of events were committed, the positions read are those of the last committed
event of each partition asked for. -/
lemma readPositions_foldl_commitRecord (hall : ∀ e ∈ events, (a.recordOf e).isSome)
    (ps : List UInt16) :
    ∃ positions,
      a.codec.readPositions
        ((events.filterMap a.recordOf).foldl OffsetStore.commitRecord .empty).storage ps =
          .ok positions ∧
      ∀ p, Dictionary.find? p positions =
        if p ∈ ps then (lastOf p events).map Event.position else none := by
  have hrec : a.recorded events = events := List.filter_eq_self.2 hall
  obtain ⟨positions, hread, hfind⟩ :=
    a.codec.readPositions_commitAll (events.map a.commitOf) ps
  refine ⟨positions, ?_, ?_⟩
  · rw [a.foldl_commitRecord, hrec]
    exact hread
  · intro p
    rw [hfind p, a.latest_map_commitOf]

/-- A record tells the partition and the position of its event. -/
lemma position_eq_of_recordOf {f : Event} {r : FeedRecord} (he : a.recordOf e = some r)
    (hf : a.recordOf f = some r) :
    f.message.partition = e.message.partition ∧ f.message.seqno = e.message.seqno := by
  obtain ⟨hep, heo⟩ := a.maps_recordOf he
  obtain ⟨hfp, hfo⟩ := a.maps_recordOf hf
  have hpart := Codec.sourcePartition_inj.1 (hfp.symm.trans hep)
  have hpos := Codec.sourceOffset_inj.1 (hfo.symm.trans heo)
  exact ⟨hpart, congrArg Position.seqno hpos⟩

/-- Of the events that have a record, just those whose record is among the first ones come no later
than the last event of these in their partition. -/
lemma le_lastOf_iff {more : List Event} {n : Nat} {r : FeedRecord}
    (ha : Ascending (events ++ more)) (hl : lastOf p ((a.recorded events).take n) = some last)
    (he : e ∈ events ++ more) (hp : e.message.partition = p) (hr : a.recordOf e = some r) :
    e.message.seqno ≤ last.message.seqno ↔ r ∈ (events.filterMap a.recordOf).take n := by
  -- the events that have a record: the first ones, then the others
  have hsplit : a.recorded (events ++ more) =
      (a.recorded events).take n ++ ((a.recorded events).drop n ++ a.recorded more) := by
    rw [recorded, List.filter_append, ← recorded, ← recorded, ← List.append_assoc,
      List.take_append_drop]
  have hasc : Ascending (a.recorded (events ++ more)) := ha.filter _
  have hmem : e ∈ a.recorded (events ++ more) := List.mem_filter.2 ⟨he, by simp [hr]⟩
  rw [hsplit] at hasc hmem
  rw [hasc.le_last_iff hl hmem hp, ← a.filterMap_take_recorded]
  constructor
  · intro he
    exact List.mem_filterMap.2 ⟨e, he, hr⟩
  · intro hm
    -- the event that the record belongs to has the same partition and sequence number
    obtain ⟨f, hf, hfr⟩ := List.mem_filterMap.1 hm
    obtain ⟨hfp, hfs⟩ := a.position_eq_of_recordOf hr hfr
    have hfe := (hasc.le_last_iff hl (List.mem_append_left _ hf) (hfp.trans hp)).2 hf
    rw [hfs] at hfe
    exact (hasc.le_last_iff hl hmem hp).1 hfe

/-- Of the records of polls none of which failed, the first `n` are committed in order, whatever
further polls come to. If in each partition the sequence numbers of the events that arrived ascend,
then the positions read afterwards are those of the events committed last; and of the events taken
from the bridge that have a record, just those whose record is among the committed ones come no
later than the position of their partition. -/
theorem resumes_without_gaps (others more : List (List Move)) (h : Hub)
    (records : List FeedRecord) (n : Nat) (ps : List UInt16)
    (hr : gathered (a.polls others h).1 = some records)
    (ha : Ascending (h.arrivals (a.polls (others ++ more) h).2)) :
    records.take n =
      ((a.recorded (taken (h.since (a.polls others h).2))).take n).filterMap a.recordOf ∧
    ∃ positions,
      a.codec.readPositions
        ((records.take n).foldl OffsetStore.commitRecord .empty).storage ps = .ok positions ∧
      (∀ p, Dictionary.find? p positions =
        if p ∈ ps then
          (lastOf p ((a.recorded (taken (h.since (a.polls others h).2))).take n)).map
            Event.position
        else none) ∧
      ∀ p position, Dictionary.find? p positions = some position →
        ∀ e ∈ taken (h.since (a.polls (others ++ more) h).2), e.message.partition = p →
          ∀ r, a.recordOf e = some r →
            (e.message.seqno ≤ position.seqno ↔ r ∈ records.take n) := by
  obtain ⟨events, hc⟩ := a.collects_polls others h
  obtain ⟨later, hl⟩ := a.collects_polls more (a.polls others h).2
  obtain ⟨-, ht, -⟩ := hc.dequeues.spec
  obtain ⟨-, hall, hq⟩ := (hc.dequeues.trans hl.dequeues).spec
  obtain ⟨rfl, -⟩ := a.gathered_polls hr
  rw [polls_append] at ha ⊢
  dsimp only at ha ⊢
  rw [hq] at ha
  rw [ht, hall]
  have htake := a.filterMap_take_recorded events n
  have hsome : ∀ e ∈ (a.recorded events).take n, (a.recordOf e).isSome := fun e he =>
    (List.mem_filter.1 (List.mem_of_mem_take he)).2
  refine ⟨htake.symm, ?_⟩
  rw [← htake]
  obtain ⟨positions, hread, hfind⟩ := a.readPositions_foldl_commitRecord hsome ps
  refine ⟨positions, hread, hfind, ?_⟩
  intro p position hp e he hpart r hrec
  rw [hfind p] at hp
  split at hp
  · obtain ⟨last, hlast, rfl⟩ := Option.map_eq_some_iff.1 hp
    rw [htake]
    exact a.le_lastOf_iff (List.pairwise_append.1 ha).1 hlast he hpart hrec
  · cases hp

open Doubles

/-- An assembler of batches of two records. -/
def inPairs : Assembler :=
  ⟨⟨none, .rawJson, "travel", "travel-topic"⟩, ⟨"travel", some "connector"⟩, ⟨2, by decide⟩⟩

/-- A hub at which a feed is running, with events of two partitions in its bridge. -/
def interleaved : Hub :=
  { Hub.idle .none with
    bridge := some ⟨[mutation 0 1, mutation 1 5, mutation 0 2], none⟩
    running := true }

/-- Two polls return three records, of which two are committed; a third poll discards a record
because the next event cannot be released. -/
theorem resumes_without_gaps_interleaved :
    Ascending (interleaved.arrivals
      (inPairs.polls ([[], []] ++ [[.enqueue (mutation 1 6), .enqueue (failingMutation 0 3)]])
        interleaved).2) ∧
    ∃ records positions, gathered (inPairs.polls [[], []] interleaved).1 = some records ∧
      records.length = 3 ∧
      inPairs.codec.readPositions
        ((records.take 2).foldl OffsetStore.commitRecord .empty).storage [1, 0, 2] =
          .ok positions ∧
      Dictionary.find? 0 positions = some ⟨1, some 1000⟩ ∧
      Dictionary.find? 1 positions = some ⟨5, some 1001⟩ ∧
      Dictionary.find? 2 positions = none := by
  have ha : Ascending (interleaved.arrivals
      (inPairs.polls ([[], []] ++ [[.enqueue (mutation 1 6), .enqueue (failingMutation 0 3)]])
        interleaved).2) := by
    decide +kernel
  have hlen : (gathered (inPairs.polls [[], []] interleaved).1).map List.length = some 3 := by
    decide +kernel
  obtain ⟨records, hr, hn⟩ := Option.map_eq_some_iff.1 hlen
  obtain ⟨-, positions, hread, hfind, -⟩ := inPairs.resumes_without_gaps [[], []]
    [[.enqueue (mutation 1 6), .enqueue (failingMutation 0 3)]] interleaved records 2 [1, 0, 2] hr
    ha
  refine ⟨ha, records, positions, hr, hn, hread, ?_, ?_, ?_⟩
  · rw [hfind 0]
    decide +kernel
  · rw [hfind 1]
    decide +kernel
  · rw [hfind 2]
    decide +kernel

end Assembler

end ChangeFeed
