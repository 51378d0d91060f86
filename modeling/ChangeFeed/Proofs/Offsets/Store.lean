import ChangeFeed.Offsets.Store
import ChangeFeed.Proofs.Offsets.Codec

/-!
# What a store answers

A store to which encoded positions are committed answers, for every codec and partition, the offset
committed last under this codec for this partition, whatever else was committed under other codecs
or for other partitions.
-/

namespace ChangeFeed

/-- A position to be committed. -/
structure Commit where
  codec : Codec
  partition : UInt16
  position : Position

namespace OffsetStore

/-- Commits positions in order. -/
def commitAll (s : OffsetStore) (commits : List Commit) : OffsetStore :=
  commits.foldl (fun s x => s.commit x.codec x.partition x.position) s

/-- Every source partition in the store was encoded. -/
def Coded (s : OffsetStore) : Prop :=
  ∀ e ∈ s.entries, ∃ c : Codec, ∃ p, e.1 = c.sourcePartition p

variable {s : OffsetStore} {c d : Codec} {p q : UInt16} {offset : JsonMap}

/-- Nothing in an empty store needs to have been encoded. -/
lemma coded_empty : Coded .empty := by
  intro e he
  cases he

/-- A commit for an encoded partition leaves every partition encoded. -/
lemma Coded.commitMaps (hs : s.Coded) : (s.commitMaps (c.sourcePartition p) offset).Coded := by
  obtain ⟨entries⟩ := s
  intro e he
  simp only [OffsetStore.commitMaps] at he
  induction entries with
  | nil =>
    obtain rfl := List.mem_singleton.1 he
    exact ⟨c, p, rfl⟩
  | cons x rest ih =>
    obtain ⟨m, o⟩ := x
    have hm := hs (m, o) (by simp)
    have hrest : Coded ⟨rest⟩ := fun e he => hs e (List.mem_cons_of_mem _ he)
    rw [put] at he
    split at he
    · rcases List.mem_cons.1 he with rfl | he
      · exact hm
      · exact hrest e he
    · rcases List.mem_cons.1 he with rfl | he
      · exact hm
      · exact ih hrest he

/-- A commit is answered for its own codec and partition, and no other answer changes. -/
lemma find?_commitMaps (hs : s.Coded) :
    (s.commitMaps (c.sourcePartition p) offset).find? (d.sourcePartition q) =
      if c = d ∧ p = q then some offset else s.find? (d.sourcePartition q) := by
  obtain ⟨entries⟩ := s
  simp only [commitMaps, find?]
  induction entries with
  | nil => by_cases hc : c = d ∧ p = q <;> simp [put, hc]
  | cons x rest ih =>
    obtain ⟨m, o⟩ := x
    obtain ⟨c', p', rfl⟩ := hs (m, o) (by simp)
    have hrest := ih fun e he => hs e (List.mem_cons_of_mem _ he)
    by_cases hp : c' = c ∧ p' = p
    · obtain ⟨rfl, rfl⟩ := hp
      by_cases hc : c' = d ∧ p' = q <;> simp [put, hc]
    · -- the entry stays, and if it answers then it is not the one that is committed
      have hput : put (c.sourcePartition p) offset ((c'.sourcePartition p', o) :: rest) =
          (c'.sourcePartition p', o) :: put (c.sourcePartition p) offset rest := by
        rw [put, Codec.sameMembers_sourcePartition, if_neg (by simpa using hp)]
      rw [hput, List.find?_cons, List.find?_cons, Codec.sameMembers_sourcePartition]
      by_cases hc : c' = d ∧ p' = q
      · obtain ⟨rfl, rfl⟩ := hc
        have hne : ¬ (c = c' ∧ p = p') := fun h => hp ⟨h.1.symm, h.2.symm⟩
        rw [if_neg hne, decide_eq_true ⟨rfl, rfl⟩]
      · rw [decide_eq_false hc]
        exact hrest

/-- After commits in a row the last one under a codec for a partition is answered. -/
lemma find?_commitAll (hs : s.Coded) (commits : List Commit) :
    (s.commitAll commits).find? (d.sourcePartition q) =
      ((commits.filter fun x => x.codec = d ∧ x.partition = q).getLast?.map
        fun x => Codec.sourceOffset x.position).or (s.find? (d.sourcePartition q)) := by
  -- the first commit changes the store that the others are made to
  induction commits generalizing s with
  | nil => simp [commitAll]
  | cons x rest ih =>
    have hx : (s.commit x.codec x.partition x.position).Coded := hs.commitMaps
    have hrest := ih hx
    rw [commitAll, List.foldl_cons, ← commitAll, hrest, commit, find?_commitMaps hs]
    by_cases hc : x.codec = d ∧ x.partition = q
    · rw [List.filter_cons_of_pos (by simpa using hc), List.getLast?_cons, if_pos hc]
      cases (rest.filter fun x => x.codec = d ∧ x.partition = q).getLast? <;> simp
    · rw [List.filter_cons_of_neg (by simpa using hc), if_neg hc]

end OffsetStore

end ChangeFeed
