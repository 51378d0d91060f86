import ChangeFeed.Proofs.Offsets.Isolation
import ChangeFeed.Proofs.Offsets.Language

/-!
# Decoding a whole look-up

A look-up is decoded entry by entry, whatever the storage answered. An entry without an offset says
nothing; every other one must decode, and the first that does not ends the decoding. Of several
entries for one partition the last counts, however each of them spells the number.
-/

namespace ChangeFeed

namespace Dictionary

variable {κ α : Type} [DecidableEq κ] [LT κ] [DecidableLT κ]

/-- Of the entries of a key the last one counts. -/
lemma find?_ofList (k : κ) (entries : List (κ × α)) :
    find? k (ofList entries) =
      (entries.filterMap fun e => if e.1 = k then some e.2 else none).getLast? := by
  induction entries using List.reverseRecOn with
  | nil => rfl
  | append_singleton entries e ih =>
    have hsnoc : ofList (entries ++ [e]) = insert e.1 e.2 (ofList entries) := by
      rw [ofList, List.foldl_append]
      rfl
    rw [hsnoc, find?_insert, ih, List.filterMap_append, List.getLast?_append]
    by_cases hk : k = e.1
    · simp [hk]
    · simp [hk, Ne.symm hk]

end Dictionary

namespace Codec

variable {known : Positions} {lookup other before after : Lookup}
  {x : JsonMap × Option JsonMap} {map offset : JsonMap} {p : UInt16} {position : Position}
  {e : OffsetError}

/-- An entry has no offset, or one that decodes beside a source partition that does. -/
def Sound (x : JsonMap × Option JsonMap) : Prop :=
  ∀ offset, x.2 = some offset →
    (∃ p, decodePartition x.1 = .ok p) ∧ ∃ position, decodeOffset offset = .ok position

/-- The error of a source partition and an offset: that of the partition comes before that of the
offset. -/
def Fails (map offset : JsonMap) (e : OffsetError) : Prop :=
  decodePartition map = .error e ∨
    (∃ p, decodePartition map = .ok p) ∧ decodeOffset offset = .error e

/-- The partition number of an entry that has an offset. -/
def number? (x : JsonMap × Option JsonMap) : Option UInt16 :=
  x.2.bind fun _ => (decodePartition x.1).toOption

/-- The partition number of an entry that has an offset, and the position that this is. -/
def saying? (x : JsonMap × Option JsonMap) : Option (UInt16 × Position) :=
  x.2.bind fun offset => (decodePartition x.1).toOption.bind fun p =>
    (decodeOffset offset).toOption.map fun position => (p, position)

/-- A result that counts is a success. -/
lemma toOption_eq_some_iff {ε α : Type} {r : Except ε α} {a : α} :
    r.toOption = some a ↔ r = .ok a := by
  cases r <;> simp [Except.toOption]

/-- An entry names a partition if it has an offset and its map is that of the partition. -/
lemma number?_eq_some_iff :
    number? x = some p ↔ ∃ offset, x.2 = some offset ∧ decodePartition x.1 = .ok p := by
  simp [number?, Option.bind_eq_some_iff, toOption_eq_some_iff]

/-- An entry says a position of a partition if its map and its offset are those. -/
lemma saying?_eq_some_iff :
    saying? x = some (p, position) ↔
      ∃ offset, x.2 = some offset ∧ decodePartition x.1 = .ok p ∧
        decodeOffset offset = .ok position := by
  simp [saying?, Option.bind_eq_some_iff, toOption_eq_some_iff]

/-- Sound entries are added one by one to what is known, and decoding goes on after them. -/
lemma decodeInto_append (hb : ∀ x ∈ before, Sound x) (rest : Lookup) :
    decodeInto known (before ++ rest) =
      decodeInto ((before.filterMap saying?).foldl (fun d e => Dictionary.insert e.1 e.2 d) known)
        rest := by
  induction before generalizing known with
  | nil => rfl
  | cons x before ih =>
    have hrest : ∀ x ∈ before, Sound x := fun y hy => hb y (List.mem_cons_of_mem _ hy)
    obtain ⟨map, _ | offset⟩ := x
    · exact ih hrest
    · obtain ⟨⟨p, hp⟩, position, ho⟩ := hb _ List.mem_cons_self offset rfl
      have hs : saying? (map, some offset) = some (p, position) :=
        saying?_eq_some_iff.2 ⟨offset, rfl, hp, ho⟩
      rw [List.cons_append, decodeInto, hp, ho, List.filterMap_cons_some hs]
      exact ih hrest

/-- A lookup without a wrong entry is decoded to what its entries say. -/
lemma decodeOffsets_of_sound (hs : ∀ x ∈ lookup, Sound x) :
    decodeOffsets lookup = .ok (Dictionary.ofList (lookup.filterMap saying?)) := by
  have h : decodeInto [] (lookup ++ []) = .ok (Dictionary.ofList (lookup.filterMap saying?)) :=
    decodeInto_append hs []
  rwa [List.append_nil] at h

/-- The first wrong entry is what a lookup fails at. -/
lemma decodeOffsets_of_fails (hb : ∀ x ∈ before, Sound x) (hf : Fails map offset e) :
    decodeOffsets (before ++ (map, some offset) :: after) = .error e := by
  rw [decodeOffsets, decodeInto_append hb, decodeInto]
  obtain hp | ⟨⟨p, hp⟩, ho⟩ := hf
  · rw [hp]
    rfl
  · rw [hp, ho]
    rfl

/-- An entry that is not sound fails with some error. -/
lemma exists_fails (hx : ¬ Sound x) :
    ∃ map offset e, x = (map, some offset) ∧ Fails map offset e := by
  obtain ⟨map, _ | offset⟩ := x
  · exact absurd nofun hx
  · refine ⟨map, offset, ?_⟩
    cases hp : decodePartition map with
    | error e => exact ⟨e, rfl, .inl hp⟩
    | ok p =>
      cases ho : decodeOffset offset with
      | error e => exact ⟨e, rfl, .inr ⟨⟨p, hp⟩, ho⟩⟩
      | ok position =>
        refine absurd (fun other h => ?_) hx
        obtain rfl := Option.some.inj h
        exact ⟨⟨p, hp⟩, position, ho⟩

/-- Either all entries are sound, or there is a first one that is not. -/
lemma sound_or_first (lookup : Lookup) :
    (∀ x ∈ lookup, Sound x) ∨ ∃ before map offset after e,
      lookup = before ++ (map, some offset) :: after ∧ (∀ x ∈ before, Sound x) ∧
        Fails map offset e := by
  induction lookup with
  | nil => exact .inl nofun
  | cons x rest ih =>
    by_cases hx : Sound x
    · obtain hs | ⟨before, map, offset, after, e, rfl, hb, hf⟩ := ih
      · exact .inl (List.forall_mem_cons.2 ⟨hx, hs⟩)
      · exact .inr ⟨x :: before, map, offset, after, e, rfl, List.forall_mem_cons.2 ⟨hx, hb⟩, hf⟩
    · obtain ⟨map, offset, e, rfl, hf⟩ := exists_fails hx
      exact .inr ⟨[], map, offset, rest, e, rfl, nofun, hf⟩

/-- A lookup fails at its first wrong entry, and for what is wrong with that. -/
lemma decodeOffsets_eq_error_iff :
    decodeOffsets lookup = .error e ↔ ∃ before map offset after,
      lookup = before ++ (map, some offset) :: after ∧ (∀ x ∈ before, Sound x) ∧
        Fails map offset e := by
  constructor
  · intro h
    obtain hs | ⟨before, map, offset, after, e', rfl, hb, hf⟩ := sound_or_first lookup
    · cases (decodeOffsets_of_sound hs).symm.trans h
    · obtain rfl := Except.error.inj ((decodeOffsets_of_fails hb hf).symm.trans h)
      exact ⟨before, map, offset, after, rfl, hb, hf⟩
  · rintro ⟨before, map, offset, after, rfl, hb, hf⟩
    exact decodeOffsets_of_fails hb hf

/-- A lookup that is decoded has no wrong entry. -/
lemma sound_of_decodeOffsets (h : decodeOffsets lookup = .ok known) : ∀ x ∈ lookup, Sound x := by
  obtain hs | ⟨before, map, offset, after, e, rfl, hb, hf⟩ := sound_or_first lookup
  · exact hs
  · cases (decodeOffsets_of_fails hb hf).symm.trans h

/-- The position that an entry is of the partition. -/
def positionOf? (p : UInt16) (x : JsonMap × Option JsonMap) : Option Position :=
  (saying? x).bind fun e => if e.1 = p then some e.2 else none

/-- An entry says a position of a partition if that is what it says. -/
lemma positionOf?_eq_some_iff :
    positionOf? p x = some position ↔ saying? x = some (p, position) := by
  rw [positionOf?, Option.bind_eq_some_iff]
  constructor
  · rintro ⟨⟨q, found⟩, hs, hp⟩
    obtain ⟨rfl, hf⟩ := Option.ite_none_right_eq_some.1 hp
    rwa [← Option.some.inj hf]
  · exact fun hs => ⟨_, hs, if_pos rfl⟩

/-- An entry that says a position of a partition names it. -/
lemma number?_of_positionOf? (h : positionOf? p x = some position) : number? x = some p := by
  obtain ⟨offset, hx, hp, -⟩ := saying?_eq_some_iff.1 (positionOf?_eq_some_iff.1 h)
  exact number?_eq_some_iff.2 ⟨offset, hx, hp⟩

/-- A sound entry that names a partition says a position of it. -/
lemma positionOf?_eq_none_iff (hx : Sound x) : positionOf? p x = none ↔ number? x ≠ some p := by
  constructor
  · intro hnone hn
    obtain ⟨offset, ho, hp⟩ := number?_eq_some_iff.1 hn
    obtain ⟨-, position, hd⟩ := hx offset ho
    have hs := positionOf?_eq_some_iff.2 (saying?_eq_some_iff.2 ⟨offset, ho, hp, hd⟩)
    rw [hnone] at hs
    cases hs
  · intro hn
    cases hp : positionOf? p x with
    | none => rfl
    | some position => exact absurd (number?_of_positionOf? hp) hn

/-- The position of a partition is the last that the lookup says of it. -/
lemma find?_decodeOffsets (h : decodeOffsets lookup = .ok known) (p : UInt16) :
    Dictionary.find? p known = (lookup.filterMap (positionOf? p)).getLast? := by
  obtain rfl := Except.ok.inj ((decodeOffsets_of_sound (sound_of_decodeOffsets h)).symm.trans h)
  rw [Dictionary.find?_ofList, List.filterMap_filterMap]
  rfl

/-- The last value is that of the last element that has one. -/
lemma getLast?_filterMap_eq_some_iff {α β : Type} {f : α → Option β} {xs : List α} {b : β} :
    (xs.filterMap f).getLast? = some b ↔
      ∃ before x after, xs = before ++ x :: after ∧ f x = some b ∧ ∀ y ∈ after, f y = none := by
  rw [List.getLast?_filterMap, List.findSome?_eq_some_iff]
  constructor
  · rintro ⟨after, x, before, hxs, hx, hafter⟩
    refine ⟨before.reverse, x, after.reverse, ?_, hx, fun y hy => hafter y (List.mem_reverse.1 hy)⟩
    simpa using congrArg List.reverse hxs
  · rintro ⟨before, x, after, rfl, hx, hafter⟩
    exact ⟨after.reverse, x, before.reverse, by simp, hx,
      fun y hy => hafter y (List.mem_reverse.1 hy)⟩

/-- The position of a partition is what the last of its entries says. -/
lemma find?_decodeOffsets_eq_some_iff (h : decodeOffsets lookup = .ok known) :
    Dictionary.find? p known = some position ↔ ∃ before map offset after,
      lookup = before ++ (map, some offset) :: after ∧ decodePartition map = .ok p ∧
        decodeOffset offset = .ok position ∧ ∀ x ∈ after, number? x ≠ some p := by
  have hs := sound_of_decodeOffsets h
  rw [find?_decodeOffsets h, getLast?_filterMap_eq_some_iff]
  constructor
  · rintro ⟨before, ⟨map, _⟩, after, rfl, hx, hafter⟩
    obtain ⟨offset, rfl, hp, hd⟩ := saying?_eq_some_iff.1 (positionOf?_eq_some_iff.1 hx)
    refine ⟨before, map, offset, after, rfl, hp, hd, fun y hy => ?_⟩
    have hy' : Sound y := hs y (List.mem_append_right _ (List.mem_cons_of_mem _ hy))
    exact (positionOf?_eq_none_iff hy').1 (hafter y hy)
  · rintro ⟨before, map, offset, after, rfl, hp, hd, hafter⟩
    refine ⟨before, _, after, rfl,
      positionOf?_eq_some_iff.2 (saying?_eq_some_iff.2 ⟨offset, rfl, hp, hd⟩), fun y hy => ?_⟩
    have hy' : Sound y := hs y (List.mem_append_right _ (List.mem_cons_of_mem _ hy))
    exact (positionOf?_eq_none_iff hy').2 (hafter y hy)

/-- There is a position for the partitions that are named, and for no others. -/
lemma mem_keys_decodeOffsets (h : decodeOffsets lookup = .ok known) :
    p ∈ Dictionary.keys known ↔
      ∃ map offset, (map, some offset) ∈ lookup ∧ decodePartition map = .ok p := by
  rw [← Dictionary.isSome_find?_iff, find?_decodeOffsets h, List.getLast?_isSome]
  constructor
  · intro hne
    obtain ⟨position, hm⟩ := List.exists_mem_of_ne_nil _ hne
    obtain ⟨⟨map, _⟩, hx, hp⟩ := List.mem_filterMap.1 hm
    obtain ⟨offset, rfl, hp, -⟩ := saying?_eq_some_iff.1 (positionOf?_eq_some_iff.1 hp)
    exact ⟨map, offset, hx, hp⟩
  · rintro ⟨map, offset, hx, hp⟩
    obtain ⟨-, position, hd⟩ := sound_of_decodeOffsets h _ hx offset rfl
    exact List.ne_nil_of_mem (List.mem_filterMap.2 ⟨_, hx,
      positionOf?_eq_some_iff.2 (saying?_eq_some_iff.2 ⟨offset, rfl, hp, hd⟩)⟩)

/-- The partitions that are known are in order. -/
lemma pairwise_keys_decodeOffsets (h : decodeOffsets lookup = .ok known) :
    (Dictionary.keys known).Pairwise (· < ·) := by
  obtain rfl := Except.ok.inj ((decodeOffsets_of_sound (sound_of_decodeOffsets h)).symm.trans h)
  exact Dictionary.pairwise_keys_ofList UInt16.lt_trans
    (fun hne hlt => UInt16.lt_of_le_of_ne (UInt16.not_lt.1 hlt) hne.symm) _

/-- Only the entries that name a partition matter to its position. -/
lemma filterMap_positionOf?_filter (p : UInt16) (lookup : Lookup) :
    (lookup.filter fun x => number? x = some p).filterMap (positionOf? p) =
      lookup.filterMap (positionOf? p) := by
  rw [List.filterMap_filter]
  congr 1
  funext x
  cases hp : positionOf? p x with
  | none => simp
  | some position => simp [number?_of_positionOf? hp]

/-- Entries of different partitions can change places. -/
lemma decodeOffsets_of_perm (h : decodeOffsets lookup = .ok known) (hperm : other.Perm lookup)
    (ho : ∀ p, (other.filter fun x => number? x = some p) =
      lookup.filter fun x => number? x = some p) : decodeOffsets other = .ok known := by
  have hs : ∀ x ∈ other, Sound x := fun x hx => sound_of_decodeOffsets h x (hperm.mem_iff.1 hx)
  have hother := decodeOffsets_of_sound hs
  rw [hother]
  congr 1
  refine Dictionary.eq_of_find?_eq UInt16.lt_asymm (pairwise_keys_decodeOffsets hother)
    (pairwise_keys_decodeOffsets h) fun p => ?_
  rw [find?_decodeOffsets hother, find?_decodeOffsets h, ← filterMap_positionOf?_filter, ho,
    filterMap_positionOf?_filter]

/-- Entries without an offset do not matter. -/
lemma decodeInto_filter (known : Positions) (lookup : Lookup) :
    decodeInto known (lookup.filter fun x => x.2.isSome) = decodeInto known lookup := by
  induction lookup generalizing known with
  | nil => rfl
  | cons x rest ih =>
    obtain ⟨map, _ | offset⟩ := x
    · exact ih known
    · rw [List.filter_cons_of_pos rfl, decodeInto, decodeInto]
      simp only [ih]

/-- A storage that answers only what it is asked for never adds a partition. -/
lemma mem_of_mem_keys_readPositions {c : Codec} {storage : Storage} {ps : List UInt16}
    (hs : ∀ x ∈ storage (c.sourcePartitions ps), x.1 ∈ c.sourcePartitions ps)
    (h : c.readPositions storage ps = .ok known) (hp : p ∈ Dictionary.keys known) : p ∈ ps := by
  obtain ⟨map, offset, hx, hd⟩ := (mem_keys_decodeOffsets h).1 hp
  obtain ⟨q, hq, rfl⟩ := List.mem_map.1 (hs _ hx)
  obtain rfl := Except.ok.inj ((decodePartition_sourcePartition c q).symm.trans hd)
  exact hq

/-- No entry names a partition if no map with an offset is decoded to it. -/
lemma forall_number?_ne_iff :
    (∀ x ∈ after, number? x ≠ some p) ↔
      ∀ map offset, (map, some offset) ∈ after → decodePartition map ≠ .ok p := by
  simp only [ne_eq, number?_eq_some_iff, not_exists, not_and, Prod.forall]
  constructor
  · exact fun h map offset hx => h map _ hx offset rfl
  · rintro h map _ hx offset rfl
    exact h map offset hx

/-- What a look-up decodes to, whatever it holds. It fails just if some entry with an offset does,
with the error of the first such entry. Otherwise there is a position for just the partitions that
such entries name, which is that of the last of them. Entries without an offset can be put in or
taken out anywhere, and entries can change places unless they name the same partition. Hence a
storage that answers only what it is asked for never adds a partition. -/
theorem decodeOffsets_exact (lookup : Lookup) :
    (∀ e, decodeOffsets lookup = .error e ↔ ∃ before map offset after,
      lookup = before ++ (map, some offset) :: after ∧ (∀ x ∈ before, Sound x) ∧
        (decodePartition map = .error e ∨
          (∃ p, decodePartition map = .ok p) ∧ decodeOffset offset = .error e)) ∧
    ((∃ positions, decodeOffsets lookup = .ok positions) ↔ ∀ x ∈ lookup, Sound x) ∧
    (∀ positions, decodeOffsets lookup = .ok positions →
      (Dictionary.keys positions).Pairwise (· < ·) ∧
      (∀ p, p ∈ Dictionary.keys positions ↔
        ∃ map offset, (map, some offset) ∈ lookup ∧ decodePartition map = .ok p) ∧
      (∀ p position, Dictionary.find? p positions = some position ↔ ∃ before map offset after,
        lookup = before ++ (map, some offset) :: after ∧ decodePartition map = .ok p ∧
          decodeOffset offset = .ok position ∧
          ∀ other later, (other, some later) ∈ after → decodePartition other ≠ .ok p) ∧
      ∀ other : Lookup, other.Perm lookup →
        (∀ p, (other.filter fun x => number? x = some p) =
          lookup.filter fun x => number? x = some p) →
        decodeOffsets other = .ok positions) ∧
    (∀ other : Lookup,
      (other.filter fun x => x.2.isSome) = (lookup.filter fun x => x.2.isSome) →
      decodeOffsets other = decodeOffsets lookup) ∧
    ∀ (c : Codec) (storage : Storage) ps positions,
      (∀ x ∈ storage (c.sourcePartitions ps), x.1 ∈ c.sourcePartitions ps) →
      c.readPositions storage ps = .ok positions → ∀ p ∈ Dictionary.keys positions, p ∈ ps := by
  refine ⟨fun e => decodeOffsets_eq_error_iff, ?_, ?_, ?_, ?_⟩
  · exact ⟨fun ⟨_, h⟩ => sound_of_decodeOffsets h, fun hs => ⟨_, decodeOffsets_of_sound hs⟩⟩
  · intro positions h
    refine ⟨pairwise_keys_decodeOffsets h, fun p => mem_keys_decodeOffsets h, ?_,
      fun other => decodeOffsets_of_perm h⟩
    intro p position
    simp only [find?_decodeOffsets_eq_some_iff h, forall_number?_ne_iff]
  · intro other ho
    rw [decodeOffsets, ← decodeInto_filter, ho, decodeInto_filter]
    rfl
  · intro c storage ps positions hs h p hp
    exact mem_of_mem_keys_readPositions hs h hp

/-- Three numerals of one partition, another one between them, and an entry without an offset whose
source partition is no map of one. -/
theorem decodeOffsets_exact_numerals :
    let entry (numeral : String) (seqno : Int) : JsonMap × Option JsonMap :=
      ([("partition", .str numeral)], some [("bySeqno", .int seqno)])
    let lookup := [([], none), entry "7" 1, entry "8" 2, entry "+7" 3, entry "007" 4]
    let other := [entry "8" 2, entry "7" 1, ([], none), entry "+7" 3, entry "007" 4]
    let positions : Positions := [(7, ⟨4, none⟩), (8, ⟨2, none⟩)]
    decodeOffsets lookup = .ok positions ∧ decodeOffsets other = .ok positions ∧
      Dictionary.find? 7 positions = some ⟨4, none⟩ := by
  intro entry lookup other positions
  have h : decodeOffsets lookup = .ok positions := by rfl
  obtain ⟨-, -, hok, -, -⟩ := decodeOffsets_exact lookup
  obtain ⟨-, -, hfind, hmove⟩ := hok positions h
  refine ⟨h, hmove other ?_ ?_, (hfind 7 _).2 ?_⟩
  · exact (List.reverse_perm [([], none), entry "7" 1, entry "8" 2]).append_right
      [entry "+7" 3, entry "007" 4]
  · intro p
    have hnone : number? ([], none) = none := rfl
    have h7 : number? (entry "7" 1) = some 7 := rfl
    have h8 : number? (entry "8" 2) = some 8 := rfl
    obtain rfl | hp := eq_or_ne p 7
    · simp [other, lookup, List.filter_cons, hnone, h7, h8]
    · simp [other, lookup, List.filter_cons, hnone, h7, hp.symm]
  · exact ⟨lookup.take 4, _, _, [], rfl, rfl, rfl, nofun⟩

end Codec

end ChangeFeed
