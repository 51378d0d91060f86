import ChangeFeed.Offsets.Codec
import Mathlib.Tactic.Common

/-!
# What is encoded decodes to itself

Decoding undoes encoding, of partition numbers and of positions, under every codec; and no two
source partitions agree unless codec and number do. So a look-up of source partitions that answers
each with the offset of a position is decoded to these positions.
-/

namespace ChangeFeed

namespace Text

variable {bound value n : Nat} {xs ys : List Char}

/-- The character of a digit has the value of the digit. -/
lemma digit?_digitChar (hn : n < 10) : digit? n.digitChar = some n := by
  have hd : ∀ d : Fin 10, digit? d.1.digitChar = some d.1 := by decide
  exact hd ⟨n, hn⟩

/-- Digits are read from left to right. -/
lemma readDigits_append (hr : readDigits bound value xs = .ok n) :
    readDigits bound value (xs ++ ys) = readDigits bound n ys := by
  fun_induction readDigits bound value xs with
  | case1 value =>
    obtain rfl := Except.ok.inj hr
    rfl
  | case2 => cases hr
  | case3 => cases hr
  | case4 value c rest d hd next hb ih =>
    rw [List.cons_append, readDigits, hd]
    dsimp only
    rw [if_neg hb]
    exact ih hr

/-- The digits of a number within the bound are read to that number. -/
lemma readDigits_toDigits (hn : n ≤ bound) :
    readDigits bound 0 (Nat.toDigits 10 n) = .ok n := by
  -- the last digit is read last, so the induction removes it
  induction n using Nat.strongRecOn with
  | ind n ih =>
    have hlast : ∀ v d, d < 10 → v * 10 + d ≤ bound →
        readDigits bound v [d.digitChar] = .ok (v * 10 + d) := by
      intro v d hd hb
      rw [readDigits, digit?_digitChar hd]
      dsimp only
      rw [if_neg (by omega)]
      rfl
    by_cases hlt : n < 10
    · rw [Nat.toDigits_of_lt_base hlt, hlast 0 n hlt (by omega)]
      simp
    · have hrest := ih (n / 10) (by omega) (by omega)
      rw [Nat.toDigits_of_base_le (by omega) (by omega), readDigits_append hrest,
        hlast (n / 10) (n % 10) (by omega) (by omega)]
      congr 1
      omega

/-- So is its numeral, which has no sign. -/
lemma readNumeral_toDigits (hn : n ≤ bound) :
    readNumeral bound (Nat.toDigits 10 n) = .ok n := by
  have hr := readDigits_toDigits hn
  have hdigit : ∀ c ∈ Nat.toDigits 10 n, c.isDigit := fun _ hc =>
    Nat.isDigit_of_mem_toDigits (by omega) (by omega) hc
  unfold readNumeral
  split
  · rename_i he
    exact absurd he Nat.toDigits_ne_nil
  · rename_i he
    have := hdigit '+' (by simp [he])
    contradiction
  · rename_i rest he
    have := hdigit '+' (by simp [he])
    contradiction
  · exact hr

end Text

/-- The text of a partition is read back. -/
lemma readNumeral_partitionText (p : UInt16) :
    Text.readNumeral (UInt16.size - 1) (partitionText p).toList = .ok p.toNat := by
  rw [partitionText, String.toList_ofList]
  exact Text.readNumeral_toDigits (Nat.le_sub_one_of_lt p.toNat_lt)

/-- Different partition numbers have different texts. -/
lemma partitionText_inj {p q : UInt16} : partitionText p = partitionText q ↔ p = q := by
  constructor
  · intro he
    have hp := readNumeral_partitionText p
    rw [he, readNumeral_partitionText] at hp
    exact (UInt16.toNat_inj.1 (Except.ok.inj hp)).symm
  · rintro rfl
    rfl

namespace Codec

variable {c d : Codec} {p q : UInt16}

/-- Decoding undoes encoding of a partition number. -/
lemma decodePartition_sourcePartition (c : Codec) (p : UInt16) :
    decodePartition (c.sourcePartition p) = .ok p := by
  have hf : Dictionary.find? "partition" (c.sourcePartition p) = some (.str (partitionText p)) := by
    obtain ⟨bucket, connector⟩ := c
    cases connector <;> rfl
  rw [decodePartition, hf]
  dsimp only
  rw [readNumeral_partitionText]
  simp

/-- A number of 64 bits is read back. -/
lemma decodeNumber_toNat (n : UInt64) : decodeNumber (.int n.toNat) = .ok n := by
  have hlt : (n.toNat : Int) < UInt64.size := Int.ofNat_lt.2 n.toNat_lt_size
  rw [decodeNumber, if_neg (by omega), if_pos hlt, Int.toNat_natCast, UInt64.ofNat_toNat]

/-- Decoding undoes encoding of a position. -/
lemma decodeOffset_sourceOffset (position : Position) :
    decodeOffset (sourceOffset position) = .ok position := by
  obtain ⟨seqno, epoch⟩ := position
  have hs : Dictionary.find? "bySeqno" (sourceOffset ⟨seqno, epoch⟩) =
      some (.int seqno.toNat) := rfl
  have he : decodeEpoch (Dictionary.find? "vbuuid" (sourceOffset ⟨seqno, epoch⟩)) = .ok epoch := by
    cases epoch with
    | none => rfl
    | some e =>
      have hf : Dictionary.find? "vbuuid" (sourceOffset ⟨seqno, some e⟩) =
          some (.int e.toNat) := rfl
      rw [hf, decodeEpoch, decodeNumber_toNat, Except.map]
      simp
  have hm : decodeMembers (sourceOffset ⟨seqno, epoch⟩) = .ok ⟨seqno, epoch⟩ := by
    rw [decodeMembers, hs, he]
    dsimp only
    rw [decodeNumber_toNat]
    rfl
  rw [decodeOffset, hm]

/-- Two source partitions agree just if bucket, connector and number do. -/
@[simp] lemma sameMembers_sourcePartition :
    Json.sameMembers (c.sourcePartition p) (d.sourcePartition q) = decide (c = d ∧ p = q) := by
  rw [Bool.eq_iff_iff, decide_eq_true_iff]
  obtain ⟨bucket, connector⟩ := c
  obtain ⟨bucket', connector'⟩ := d
  cases connector <;> cases connector' <;>
    simp [sourcePartition, Json.sameMembers, Json.same, partitionText_inj, and_assoc]

/-- Different partitions have different maps. -/
lemma sourcePartition_inj : c.sourcePartition p = c.sourcePartition q ↔ p = q := by
  constructor
  · intro he
    have hp := c.decodePartition_sourcePartition p
    rw [he, c.decodePartition_sourcePartition] at hp
    exact (Except.ok.inj hp).symm
  · rintro rfl
    rfl

/-- Different positions have different maps. -/
lemma sourceOffset_inj {x y : Position} : sourceOffset x = sourceOffset y ↔ x = y := by
  constructor
  · intro he
    have hx := decodeOffset_sourceOffset x
    rw [he, decodeOffset_sourceOffset] at hx
    exact (Except.ok.inj hx).symm
  · rintro rfl
    rfl

/-- A look-up of source partitions that answers each with the offset of a position, or with none,
adds these positions to those known. -/
lemma decodeInto_sourcePartitions (c : Codec) (saved : UInt16 → Option Position)
    (ps : List UInt16) (known : Positions) :
    ∃ positions,
      decodeInto known (ps.map fun p => (c.sourcePartition p, (saved p).map sourceOffset)) =
        .ok positions ∧
      ∀ q, Dictionary.find? q positions =
        if q ∈ ps then (saved q).or (Dictionary.find? q known) else Dictionary.find? q known := by
  -- a partition that is asked for twice is answered twice, with the same position
  induction ps generalizing known with
  | nil => exact ⟨known, rfl, by simp⟩
  | cons p rest ih =>
    cases hs : saved p with
    | none =>
      obtain ⟨positions, hd, hf⟩ := ih known
      refine ⟨positions, ?_, ?_⟩
      · simpa [decodeInto, hs] using hd
      · intro q
        rw [hf q]
        by_cases hq : q = p
        · subst hq
          simp [hs]
        · simp [hq]
    | some position =>
      obtain ⟨positions, hd, hf⟩ := ih (Dictionary.insert p position known)
      refine ⟨positions, ?_, ?_⟩
      · rw [List.map_cons, hs, Option.map_some, decodeInto, decodePartition_sourcePartition,
          decodeOffset_sourceOffset]
        exact hd
      · intro q
        rw [hf q, Dictionary.find?_insert]
        by_cases hq : q = p
        · subst hq
          simp [hs]
        · simp [hq]

end Codec

end ChangeFeed
