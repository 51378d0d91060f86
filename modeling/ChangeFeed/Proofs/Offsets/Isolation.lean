import ChangeFeed.Proofs.Offsets.Store

/-!
# Many codecs, one store

Positions of many buckets, connectors and partitions are committed to the same store. What a codec
reads for a partition is the position committed last under this very codec for this very partition,
and commits under other codecs or for other partitions make no difference to it.
-/

namespace ChangeFeed

namespace Dictionary

variable {κ α : Type} [DecidableEq κ]

/-- A key is found if the dictionary has it. -/
lemma isSome_find?_iff {k : κ} {d : Dictionary κ α} : (find? k d).isSome ↔ k ∈ keys d := by
  induction d with
  | nil => simp [find?, keys]
  | cons e rest ih =>
    obtain ⟨l, v⟩ := e
    by_cases hk : k = l
    · simp [find?, keys, hk]
    · simpa [find?, keys, hk] using ih

end Dictionary

namespace Commit

variable {c : Codec} {p : UInt16} {commits others : List Commit}

/-- The position committed last under a codec for a partition. -/
def latest (c : Codec) (p : UInt16) (commits : List Commit) : Option Position :=
  (commits.filter fun x => x.codec = c ∧ x.partition = p).getLast?.map Commit.position

/-- There is a last commit of a partition if there is a commit of it. -/
lemma isSome_latest_iff :
    (latest c p commits).isSome ↔ ∃ x ∈ commits, x.codec = c ∧ x.partition = p := by
  rw [latest, Option.isSome_map, List.getLast?_isSome]
  constructor
  · intro hne
    obtain ⟨x, hx⟩ := List.exists_mem_of_ne_nil _ hne
    obtain ⟨hm, hc⟩ := List.mem_filter.1 hx
    exact ⟨x, hm, by simpa using hc⟩
  · rintro ⟨x, hm, hc⟩
    exact List.ne_nil_of_mem (List.mem_filter.2 ⟨hm, by simpa using hc⟩)

/-- The latest commit is one that no other of the same codec and partition follows. -/
lemma latest_eq_some_iff {position : Position} :
    latest c p commits = some position ↔
      ∃ before x after, commits = before ++ x :: after ∧ x.codec = c ∧ x.partition = p ∧
        x.position = position ∧ ∀ y ∈ after, ¬ (y.codec = c ∧ y.partition = p) := by
  constructor
  · intro hl
    obtain ⟨x, hx, rfl⟩ := Option.map_eq_some_iff.1 hl
    obtain ⟨init, hi⟩ := List.getLast?_eq_some_iff.1 hx
    obtain ⟨before, rest, rfl, -, hrest⟩ := List.filter_eq_append_iff.1 hi
    obtain ⟨skipped, after, rfl, -, hc, hafter⟩ := List.filter_eq_cons_iff.1 hrest
    have hc : x.codec = c ∧ x.partition = p := by simpa using hc
    refine ⟨before ++ skipped, x, after, by simp, hc.1, hc.2, rfl, ?_⟩
    intro y hy hyc
    exact List.filter_eq_nil_iff.1 hafter y hy (by simpa using hyc)
  · rintro ⟨before, x, after, rfl, hc, hp, rfl, hafter⟩
    have hnone : after.filter (fun x => x.codec = c ∧ x.partition = p) = [] :=
      List.filter_eq_nil_iff.2 fun y hy hyc => hafter y hy (by simpa using hyc)
    rw [latest, List.filter_append, List.filter_cons_of_pos (by simpa using ⟨hc, hp⟩), hnone,
      List.getLast?_append]
    rfl

/-- Only the commits under the codec for the partitions asked for count. -/
lemma latest_congr {ps : List UInt16} (hp : p ∈ ps)
    (ho : (others.filter fun x => x.codec = c ∧ x.partition ∈ ps) =
      commits.filter fun x => x.codec = c ∧ x.partition ∈ ps) :
    latest c p others = latest c p commits := by
  have hnarrow : ∀ xs : List Commit,
      (xs.filter fun x => x.codec = c ∧ x.partition ∈ ps).filter
          (fun x => x.codec = c ∧ x.partition = p) =
        xs.filter fun x => x.codec = c ∧ x.partition = p := by
    intro xs
    rw [List.filter_filter]
    apply List.filter_congr
    intro x _
    rw [← Bool.decide_and]
    apply decide_eq_decide.2
    constructor
    · exact fun h => h.1
    · exact fun h => ⟨h, h.1, h.2 ▸ hp⟩
  rw [latest, latest, ← hnarrow others, ← hnarrow commits, ho]

end Commit

namespace OffsetStore

/-- A store that began empty holds the last commit of each partition. -/
lemma find?_empty_commitAll (commits : List Commit) (c : Codec) (p : UInt16) :
    (empty.commitAll commits).find? (c.sourcePartition p) =
      (Commit.latest c p commits).map Codec.sourceOffset := by
  have hnone : empty.find? (c.sourcePartition p) = none := rfl
  rw [find?_commitAll coded_empty, hnone, Option.or_none, Commit.latest, Option.map_map]
  rfl

/-- What a store answers when it is asked for the partitions of a codec. -/
lemma storage_empty_commitAll (commits : List Commit) (c : Codec) (ps : List UInt16) :
    (empty.commitAll commits).storage (c.sourcePartitions ps) =
      ps.map fun p =>
        (c.sourcePartition p, (Commit.latest c p commits).map Codec.sourceOffset) := by
  rw [storage, Codec.sourcePartitions, List.map_map]
  apply List.map_congr_left
  intro p _
  rw [Function.comp_apply, find?_empty_commitAll]

end OffsetStore

namespace Codec

/-- The positions read are the latest ones of the partitions asked for. -/
lemma readPositions_commitAll (commits : List Commit) (c : Codec) (ps : List UInt16) :
    ∃ positions,
      c.readPositions (OffsetStore.empty.commitAll commits).storage ps = .ok positions ∧
      ∀ p, Dictionary.find? p positions = if p ∈ ps then Commit.latest c p commits else none := by
  obtain ⟨positions, hd, hf⟩ :=
    c.decodeInto_sourcePartitions (fun p => Commit.latest c p commits) ps []
  refine ⟨positions, ?_, ?_⟩
  · rw [readPositions, decodeOffsets, OffsetStore.storage_empty_commitAll]
    exact hd
  · intro p
    rw [hf p]
    simp [Dictionary.find?]

/-- After any commits, each made under a codec of its own, reading the positions of any partitions
succeeds. There is a position for just those partitions asked for that were committed under the
codec that reads, and it is the one committed last under this codec for this partition. Every other
history with the same commits under this codec for these partitions is read alike. -/
theorem readPositions_isolated (commits : List Commit) (c : Codec) (ps : List UInt16) :
    ∃ positions,
      c.readPositions (OffsetStore.empty.commitAll commits).storage ps = .ok positions ∧
      (∀ p, p ∈ Dictionary.keys positions ↔
        p ∈ ps ∧ ∃ x ∈ commits, x.codec = c ∧ x.partition = p) ∧
      (∀ p position, Dictionary.find? p positions = some position ↔
        p ∈ ps ∧ ∃ before x after, commits = before ++ x :: after ∧ x.codec = c ∧
          x.partition = p ∧ x.position = position ∧
          ∀ y ∈ after, ¬ (y.codec = c ∧ y.partition = p)) ∧
      ∀ others : List Commit,
        (others.filter fun x => x.codec = c ∧ x.partition ∈ ps) =
          (commits.filter fun x => x.codec = c ∧ x.partition ∈ ps) →
        c.readPositions (OffsetStore.empty.commitAll others).storage ps = .ok positions := by
  obtain ⟨positions, hread, hfind⟩ := c.readPositions_commitAll commits ps
  refine ⟨positions, hread, ?_, ?_, ?_⟩
  · intro p
    rw [← Dictionary.isSome_find?_iff, hfind p, ← Commit.isSome_latest_iff]
    by_cases hp : p ∈ ps <;> simp [hp]
  · intro p position
    rw [hfind p, ← Commit.latest_eq_some_iff]
    by_cases hp : p ∈ ps <;> simp [hp]
  · intro others ho
    have hsame : (OffsetStore.empty.commitAll others).storage (c.sourcePartitions ps) =
        (OffsetStore.empty.commitAll commits).storage (c.sourcePartitions ps) := by
      rw [OffsetStore.storage_empty_commitAll, OffsetStore.storage_empty_commitAll]
      apply List.map_congr_left
      intro p hp
      rw [Commit.latest_congr hp ho]
    rw [readPositions, hsame]
    exact hread

end Codec

end ChangeFeed
