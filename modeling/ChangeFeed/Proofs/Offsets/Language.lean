import ChangeFeed.Proofs.Config.Numeral
import ChangeFeed.Proofs.Offsets.Codec
import Mathlib.Algebra.Group.Nat.Defs
import Mathlib.Data.List.Sort

/-!
# The maps that decode

Source partitions and source offsets come back from the host as untyped maps, of which nothing is
known. Which of them decode, to what, and why the others do not is told here by their members alone.
A map that decodes as an offset need not be one that was encoded, but encoding what it decodes to
gives back what mattered of it.
-/

namespace ChangeFeed

namespace Dictionary

variable {κ α : Type} [DecidableEq κ] {k : κ} {v : α} {d e : Dictionary κ α}

/-- What is found under a key is an entry of the dictionary. -/
lemma mem_of_find? (h : find? k d = some v) : (k, v) ∈ d := by
  induction d with
  | nil => cases h
  | cons x rest ih =>
    obtain ⟨l, w⟩ := x
    rw [find?] at h
    split at h
    · rename_i hk
      cases h
      rw [hk]
      exact List.mem_cons_self
    · exact List.mem_cons_of_mem _ (ih h)

/-- Where no key occurs twice, every entry is found. -/
lemma find?_eq_some_iff (hd : (keys d).Nodup) : find? k d = some v ↔ (k, v) ∈ d := by
  refine ⟨mem_of_find?, fun hm => ?_⟩
  induction d with
  | nil => cases hm
  | cons x rest ih =>
    obtain ⟨l, w⟩ := x
    obtain ⟨hl, hrest⟩ := List.nodup_cons.1 hd
    rw [find?]
    obtain he | hr := List.mem_cons.1 hm
    · cases he
      rw [if_pos rfl]
    · have hk : k ≠ l := by
        rintro rfl
        exact hl (List.mem_map.2 ⟨_, hr, rfl⟩)
      rw [if_neg hk]
      exact ih hrest hr

/-- A filtered dictionary holds what the dictionary holds, if it passes the filter. -/
lemma find?_filter (hd : (keys d).Nodup) (keep : κ × α → Bool) :
    find? k (d.filter keep) = (find? k d).filter fun v => keep (k, v) := by
  have hf : (keys (d.filter keep)).Nodup := hd.sublist (List.filter_sublist.map Prod.fst)
  ext v
  rw [find?_eq_some_iff hf, List.mem_filter, Option.filter_eq_some_iff, find?_eq_some_iff hd]

section

variable [LT κ] (hasymm : ∀ {a b : κ}, a < b → ¬ b < a)

include hasymm

omit [DecidableEq κ] in
/-- Keys that ascend are pairwise different. -/
lemma nodup_keys (hd : (keys d).Pairwise (· < ·)) : (keys d).Nodup := by
  refine hd.imp ?_
  rintro a b hab rfl
  exact hasymm hab hab

/-- Two dictionaries in key order are equal if they answer every look-up alike. -/
lemma eq_of_find?_eq (hd : (keys d).Pairwise (· < ·)) (he : (keys e).Pairwise (· < ·))
    (h : ∀ k, find? k d = find? k e) : d = e := by
  have hmem : ∀ x : κ × α, x ∈ d ↔ x ∈ e := by
    rintro ⟨k, v⟩
    rw [← find?_eq_some_iff (nodup_keys hasymm hd), ← find?_eq_some_iff (nodup_keys hasymm he), h]
  have : Std.Antisymm fun x y : κ × α => x.1 < y.1 := ⟨fun _ _ hxy hyx => absurd hyx (hasymm hxy)⟩
  have : Std.Irrefl fun x y : κ × α => x.1 < y.1 := ⟨fun _ hx => hasymm hx hx⟩
  exact (List.pairwise_map.1 hd).eq_of_mem_iff (List.pairwise_map.1 he) hmem

end

end Dictionary

namespace Codec

variable {m : JsonMap} {p : UInt16} {s : String} {v : Json} {position : Position}

/-- The member of a map is a number that 64 bits hold. -/
def HoldsNumber (m : JsonMap) (key : String) : Prop :=
  ∃ n : Nat, n < 2 ^ 64 ∧ Dictionary.find? key m = some (.int n)

/-- A map is a source offset: its sequence number is there, and its epoch is, unless it has none. -/
structure IsOffset (m : JsonMap) : Prop where
  seqno : HoldsNumber m "bySeqno"
  epoch : Dictionary.find? "vbuuid" m = none ∨ Dictionary.find? "vbuuid" m = some .null ∨
    HoldsNumber m "vbuuid"

/-- The map is a source offset of the position. -/
structure IsOffsetOf (m : JsonMap) (position : Position) : Prop where
  seqno : Dictionary.find? "bySeqno" m = some (.int position.seqno.toNat)
  epoch : position.epoch.elim
    (Dictionary.find? "vbuuid" m = none ∨ Dictionary.find? "vbuuid" m = some .null)
    fun epoch => Dictionary.find? "vbuuid" m = some (.int epoch.toNat)

/-- Whether the value is null. -/
def isNull : Json → Bool
  | .null => true
  | _ => false

/-- Whether the member belongs to a source offset: it is one of the two that are read, and no epoch
that is null. -/
def isOffsetMember (x : String × Json) : Bool :=
  x.1 = "bySeqno" ∨ x.1 = "vbuuid" ∧ ¬ isNull x.2

/-- A text is read as a partition number just if it is a numeral of that number. -/
lemma readNumeral_eq_ok_toNat :
    Text.readNumeral (UInt16.size - 1) s.toList = .ok p.toNat ↔ Text.Numeral s.toList p.toNat := by
  rw [Text.readNumeral_eq_ok_iff]
  exact and_iff_left (Nat.le_sub_one_of_lt p.toNat_lt)

/-- A numeral of 16 bits is decoded to the partition. -/
lemma decodePartition_of_numeral (hf : Dictionary.find? "partition" m = some (.str s))
    (hn : Text.Numeral s.toList p.toNat) : decodePartition m = .ok p := by
  rw [decodePartition, hf]
  dsimp only
  rw [readNumeral_eq_ok_toNat.2 hn]
  simp

/-- A text that is no numeral of 16 bits is refused as a number. -/
lemma decodePartition_of_not_numeral (hf : Dictionary.find? "partition" m = some (.str s))
    (hn : ∀ p : UInt16, ¬ Text.Numeral s.toList p.toNat) :
    decodePartition m = .error (.invalidNumber s) := by
  rw [decodePartition, hf]
  dsimp only
  cases hr : Text.readNumeral (UInt16.size - 1) s.toList with
  | error cause => rfl
  | ok n =>
    obtain ⟨hs, hle⟩ := Text.readNumeral_eq_ok_iff.1 hr
    have hlt : n < UInt16.size := Nat.lt_of_le_pred (by decide) hle
    refine absurd ?_ (hn (UInt16.ofNat n))
    rwa [UInt16.toNat_ofNat_of_lt' hlt]

/-- A partition that is no text is refused as malformed. -/
lemma decodePartition_of_not_str (hf : ∀ s, Dictionary.find? "partition" m ≠ some (.str s)) :
    ∃ cause, decodePartition m = .error (.malformedPartition m cause) := by
  rw [decodePartition]
  cases hv : Dictionary.find? "partition" m with
  | none => exact ⟨_, rfl⟩
  | some v =>
    cases v with
    | str s => exact absurd hv (hf s)
    | _ => exact ⟨_, rfl⟩

/-- The three ways in which decoding a partition number can end. -/
lemma decodePartition_cases (m : JsonMap) :
    (∃ s p, Dictionary.find? "partition" m = some (.str s) ∧ Text.Numeral s.toList p.toNat ∧
        decodePartition m = .ok p) ∨
      (∃ s, Dictionary.find? "partition" m = some (.str s) ∧
        (∀ p : UInt16, ¬ Text.Numeral s.toList p.toNat) ∧
        decodePartition m = .error (.invalidNumber s)) ∨
      ((∀ s, Dictionary.find? "partition" m ≠ some (.str s)) ∧
        ∃ cause, decodePartition m = .error (.malformedPartition m cause)) := by
  by_cases hs : ∃ s, Dictionary.find? "partition" m = some (.str s)
  · obtain ⟨s, hs⟩ := hs
    by_cases hn : ∃ p : UInt16, Text.Numeral s.toList p.toNat
    · obtain ⟨p, hn⟩ := hn
      exact .inl ⟨s, p, hs, hn, decodePartition_of_numeral hs hn⟩
    · have hn := not_exists.1 hn
      exact .inr (.inl ⟨s, hs, hn, decodePartition_of_not_numeral hs hn⟩)
  · have hs := not_exists.1 hs
    exact .inr (.inr ⟨hs, decodePartition_of_not_str hs⟩)

/-- Partition maps that are decoded to a partition. -/
lemma decodePartition_eq_ok_iff :
    decodePartition m = .ok p ↔
      ∃ s, Dictionary.find? "partition" m = some (.str s) ∧ Text.Numeral s.toList p.toNat := by
  constructor
  · intro h
    obtain ⟨s, q, hs, hn, hd⟩ | ⟨s, -, -, hd⟩ | ⟨-, cause, hd⟩ := decodePartition_cases m
    · obtain rfl := Except.ok.inj (hd.symm.trans h)
      exact ⟨s, hs, hn⟩
    · cases hd.symm.trans h
    · cases hd.symm.trans h
  · rintro ⟨s, hs, hn⟩
    exact decodePartition_of_numeral hs hn

/-- Partition maps that are refused for their number. -/
lemma decodePartition_eq_invalid_iff :
    decodePartition m = .error (.invalidNumber s) ↔
      Dictionary.find? "partition" m = some (.str s) ∧
        ∀ p : UInt16, ¬ Text.Numeral s.toList p.toNat := by
  constructor
  · intro h
    obtain ⟨t, q, -, -, hd⟩ | ⟨t, hs, hn, hd⟩ | ⟨-, cause, hd⟩ := decodePartition_cases m
    · cases hd.symm.trans h
    · cases hd.symm.trans h
      exact ⟨hs, hn⟩
    · cases hd.symm.trans h
  · rintro ⟨hs, hn⟩
    exact decodePartition_of_not_numeral hs hn

/-- Partition maps that are refused as malformed. -/
lemma decodePartition_eq_malformed_iff :
    (∃ cause, decodePartition m = .error (.malformedPartition m cause)) ↔
      ∀ s, Dictionary.find? "partition" m ≠ some (.str s) := by
  refine ⟨?_, decodePartition_of_not_str⟩
  rintro ⟨cause, h⟩
  obtain ⟨s, q, -, -, hd⟩ | ⟨s, -, -, hd⟩ | ⟨hs, -⟩ := decodePartition_cases m
  · cases hd.symm.trans h
  · cases hd.symm.trans h
  · exact hs

/-- No partition number is past the bound of sixteen bits. -/
lemma forall_not_numeral_iff {cs : List Char} :
    (∀ p : UInt16, ¬ Text.Numeral cs p.toNat) ↔ ¬ ∃ n ≤ 65535, Text.Numeral cs n := by
  constructor
  · rintro h ⟨n, hn, hc⟩
    refine h (UInt16.ofNat n) ?_
    rwa [UInt16.toNat_ofNat_of_lt' (Nat.lt_succ_of_le hn)]
  · exact fun h p hc => h ⟨p.toNat, Nat.le_of_lt_succ p.toNat_lt, hc⟩

/-- Numbers that are decoded are integers of 64 bits. -/
lemma decodeNumber_eq_ok_iff {n : UInt64} : decodeNumber v = .ok n ↔ v = .int n.toNat := by
  constructor
  · intro h
    cases v with
    | int i =>
      rw [decodeNumber] at h
      split at h
      · cases h
      · rename_i hpos
        split at h
        · rename_i hlt
          obtain rfl := Except.ok.inj h
          have hsize : i.toNat < UInt64.size := by omega
          rw [UInt64.toNat_ofNat_of_lt' hsize, Int.toNat_of_nonneg (by omega)]
        · cases h
    | _ => cases h
  · rintro rfl
    exact decodeNumber_toNat n

/-- An epoch that is there and not null is decoded as a number. -/
lemma decodeEpoch_some (hv : v ≠ .null) : decodeEpoch (some v) = (decodeNumber v).map some := by
  rw [decodeEpoch]
  rintro rfl
  exact hv rfl

/-- Epochs are decoded to none if they are missing or null, and else to their number. -/
lemma decodeEpoch_eq_ok_iff {found : Option Json} {epoch : Option UInt64} :
    decodeEpoch found = .ok epoch ↔
      epoch.elim (found = none ∨ found = some .null) fun epoch =>
        found = some (.int epoch.toNat) := by
  have hnumber (v : Json) : (decodeNumber v).map some = .ok epoch ↔
      ∃ n : UInt64, epoch = some n ∧ v = .int n.toNat := by
    simp only [← decodeNumber_eq_ok_iff]
    cases decodeNumber v <;> simp [Except.map, eq_comm]
  cases found with
  | none => cases epoch <;> simp [decodeEpoch]
  | some v =>
    by_cases hv : v = .null
    · subst hv
      cases epoch <;> simp [decodeEpoch]
    · rw [decodeEpoch_some hv, hnumber]
      cases epoch <;> simp [hv]

/-- Offset members that are decoded to a position. -/
lemma decodeMembers_eq_ok_iff : decodeMembers m = .ok position ↔ IsOffsetOf m position := by
  obtain ⟨seqno, epoch⟩ := position
  have hd : decodeMembers m = .ok ⟨seqno, epoch⟩ ↔
      Dictionary.find? "bySeqno" m = some (.int seqno.toNat) ∧
        decodeEpoch (Dictionary.find? "vbuuid" m) = .ok epoch := by
    rw [decodeMembers]
    cases hs : Dictionary.find? "bySeqno" m with
    | none => cases decodeEpoch (Dictionary.find? "vbuuid" m) <;> simp [bind, Except.bind]
    | some v =>
      simp only [Option.some.injEq, ← decodeNumber_eq_ok_iff]
      cases decodeNumber v <;> cases decodeEpoch (Dictionary.find? "vbuuid" m) <;>
        simp [bind, Except.bind, pure, Except.pure]
  rw [hd, decodeEpoch_eq_ok_iff]
  exact ⟨fun h => ⟨h.1, h.2⟩, fun h => ⟨h.seqno, h.epoch⟩⟩

/-- Offset maps that are decoded to a position. -/
lemma decodeOffset_eq_ok_iff : decodeOffset m = .ok position ↔ IsOffsetOf m position := by
  rw [← decodeMembers_eq_ok_iff, decodeOffset]
  cases decodeMembers m <;> simp

/-- A map that does not decode as an offset is called malformed. -/
lemma decodeOffset_cases (m : JsonMap) :
    (∃ position, decodeOffset m = .ok position) ∨
      ∃ cause, decodeOffset m = .error (.malformedOffset m cause) := by
  rw [decodeOffset]
  cases decodeMembers m with
  | ok position => exact .inl ⟨position, rfl⟩
  | error cause => exact .inr ⟨cause, rfl⟩

/-- A member holds a number if it is an integer of 64 bits. -/
lemma holdsNumber_iff {key : String} :
    HoldsNumber m key ↔ ∃ n : UInt64, Dictionary.find? key m = some (.int n.toNat) := by
  constructor
  · rintro ⟨n, hn, hf⟩
    exact ⟨UInt64.ofNat n, by rwa [UInt64.toNat_ofNat_of_lt' hn]⟩
  · rintro ⟨n, hf⟩
    exact ⟨n.toNat, n.toNat_lt, hf⟩

/-- The source offsets are the maps that are source offsets of some position. -/
lemma isOffset_iff : IsOffset m ↔ ∃ position, IsOffsetOf m position := by
  constructor
  · rintro ⟨hs, he⟩
    obtain ⟨seqno, hs⟩ := holdsNumber_iff.1 hs
    rw [← or_assoc] at he
    obtain he | he := he
    · exact ⟨⟨seqno, none⟩, hs, he⟩
    · obtain ⟨epoch, he⟩ := holdsNumber_iff.1 he
      exact ⟨⟨seqno, some epoch⟩, hs, he⟩
  · rintro ⟨⟨seqno, epoch⟩, hs, he⟩
    refine ⟨holdsNumber_iff.2 ⟨seqno, hs⟩, ?_⟩
    cases epoch with
    | none => exact or_assoc.1 (.inl he)
    | some epoch => exact .inr (.inr (holdsNumber_iff.2 ⟨epoch, he⟩))

/-- Encoding what a map decodes to gives back the members that mattered. -/
lemma find?_sourceOffset (h : IsOffsetOf m position) (key : String) :
    Dictionary.find? key (sourceOffset position) =
      (Dictionary.find? key m).filter fun v => isOffsetMember (key, v) := by
  obtain ⟨seqno, epoch⟩ := position
  obtain ⟨hs, he⟩ := h
  by_cases hseqno : key = "bySeqno"
  · subst hseqno
    rw [hs]
    rfl
  · by_cases hepoch : key = "vbuuid"
    · subst hepoch
      cases epoch with
      | none => obtain he | he := he <;> rw [he] <;> rfl
      | some epoch =>
        rw [he]
        rfl
    · have hnone : (Dictionary.find? key m).filter (fun v => isOffsetMember (key, v)) = none := by
        simp [isOffsetMember, hseqno, hepoch]
      rw [hnone]
      cases epoch <;> simp [sourceOffset, Dictionary.find?, hseqno, hepoch]

/-- A map in key order is encoded again as the part of it that mattered. -/
lemma sourceOffset_eq_filter (h : IsOffsetOf m position)
    (hm : (Dictionary.keys m).Pairwise (· < ·)) :
    sourceOffset position = m.filter isOffsetMember := by
  have hp : (Dictionary.keys (sourceOffset position)).Pairwise (· < ·) := by
    obtain ⟨seqno, epoch⟩ := position
    have hlt : "bySeqno" < "vbuuid" := by decide
    cases epoch with
    | none => exact List.pairwise_singleton _ _
    | some epoch => exact List.pairwise_pair.2 hlt
  refine Dictionary.eq_of_find?_eq String.lt_asymm hp
    (hm.sublist (List.filter_sublist.map Prod.fst)) fun key => ?_
  rw [find?_sourceOffset h, Dictionary.find?_filter (Dictionary.nodup_keys String.lt_asymm hm)]

/-- Which maps decode, whatever else they hold. A partition number is a string member that is a
numeral of it; every other string is called no number, and every other map malformed. An offset is a
number for the sequence number and one for the epoch, or no epoch, and every other map is malformed.
Encoding the position that a map decodes to gives the part of the map that mattered, which decodes
to the same position. What is encoded decodes to itself. -/
theorem language_exact (m : JsonMap) :
    (∀ p, decodePartition m = .ok p ↔
      ∃ s, Dictionary.find? "partition" m = some (.str s) ∧ Text.Numeral s.toList p.toNat) ∧
    (∀ s, decodePartition m = .error (.invalidNumber s) ↔
      Dictionary.find? "partition" m = some (.str s) ∧
        ¬ ∃ n ≤ 65535, Text.Numeral s.toList n) ∧
    ((∃ cause, decodePartition m = .error (.malformedPartition m cause)) ↔
      ∀ s, Dictionary.find? "partition" m ≠ some (.str s)) ∧
    (∀ position, decodeOffset m = .ok position ↔ IsOffsetOf m position) ∧
    ((∃ position, decodeOffset m = .ok position) ↔ IsOffset m) ∧
    ((∃ cause, decodeOffset m = .error (.malformedOffset m cause)) ↔ ¬ IsOffset m) ∧
    (∀ position, decodeOffset m = .ok position →
      (∀ key, Dictionary.find? key (sourceOffset position) =
        (Dictionary.find? key m).filter fun v => isOffsetMember (key, v)) ∧
      ((Dictionary.keys m).Pairwise (· < ·) → sourceOffset position = m.filter isOffsetMember) ∧
      decodeOffset (sourceOffset position) = .ok position) ∧
    (∀ (c : Codec) p, decodePartition (c.sourcePartition p) = .ok p) ∧
    ∀ position, decodeOffset (sourceOffset position) = .ok position := by
  have hoffset : (∃ position, decodeOffset m = .ok position) ↔ IsOffset m := by
    simp only [decodeOffset_eq_ok_iff, isOffset_iff]
  refine ⟨fun _ => decodePartition_eq_ok_iff, ?_, decodePartition_eq_malformed_iff,
    fun _ => decodeOffset_eq_ok_iff, hoffset, ?_, ?_, decodePartition_sourcePartition,
    decodeOffset_sourceOffset⟩
  · intro s
    rw [decodePartition_eq_invalid_iff, forall_not_numeral_iff]
  · rw [← hoffset]
    obtain ⟨position, hp⟩ | ⟨cause, hc⟩ := decodeOffset_cases m
    · simp [hp]
    · simp [hc]
  · intro position hp
    have ho := decodeOffset_eq_ok_iff.1 hp
    exact ⟨find?_sourceOffset ho, sourceOffset_eq_filter ho, decodeOffset_sourceOffset position⟩

/-- A map in which the number is padded, the epoch is null and more is held than is read. -/
theorem language_exact_padded :
    let m : JsonMap :=
      [("bySeqno", .int 10), ("partition", .str "+007"), ("vbuuid", .null), ("zone", .bool true)]
    decodePartition m = .ok 7 ∧ decodeOffset m = .ok ⟨10, none⟩ ∧
      (Dictionary.keys m).Pairwise (· < ·) ∧ sourceOffset ⟨10, none⟩ = m.filter isOffsetMember ∧
      decodeOffset (sourceOffset ⟨10, none⟩) = .ok ⟨10, none⟩ := by
  intro m
  have hp : decodePartition m = .ok 7 := by rfl
  have ho : decodeOffset m = .ok ⟨10, none⟩ := by rfl
  have hm : (Dictionary.keys m).Pairwise (· < ·) := by decide
  obtain ⟨-, hfilter, hagain⟩ := (language_exact m).2.2.2.2.2.2.1 ⟨10, none⟩ ho
  exact ⟨hp, ho, hm, hfilter hm, hagain⟩

end Codec

end ChangeFeed
