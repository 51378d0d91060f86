import ChangeFeed.Proofs.Json.Scalar
import ChangeFeed.Proofs.Text.Utf8

/-!
# Values survive being written

A value is `Exact` if its text tells all of it: its integers fit 64 bits, it has no doubles, and the
members of its objects are in order. Reading the text of an exact value gives the value, provided
that it is not nested deeper than the reader goes; else reading fails. What is written item by item
is read item by item: `Reads` says this of one value, and `Exact.reads` of all.
-/

namespace ChangeFeed.Json

/-- The text of the value tells all of it. -/
inductive Exact : Json → Prop where
  | null : Exact .null
  | bool (b : Bool) : Exact (.bool b)
  | int {z : Int} : -2 ^ 63 ≤ z → z < 2 ^ 64 → Exact (.int z)
  | str (s : String) : Exact (.str s)
  | arr {items : List Json} : (∀ v ∈ items, Exact v) → Exact (.arr items)
  | obj {members : List (String × Json)} :
    (Dictionary.keys members).Pairwise (· < ·) → (∀ m ∈ members, Exact m.2) → Exact (.obj members)

/-- The text of the value is read as the value by every reader that goes deep enough, and by no
other. Twice the length of a text is fuel enough for it. -/
def Reads (v : Json) : Prop :=
  ∀ fuel depth rest, 2 * (write v).length ≤ fuel + 1 → Stops rest →
    readValue fuel depth (write v ++ rest) = if v.depth ≤ depth then some (v, rest) else none

/-- The text begins like a value. -/
def Begins (cs : List Char) : Prop :=
  ∃ c more, cs = c :: more ∧ isGap c = false ∧ c ≠ ']'

variable {v : Json} {fuel depth : Nat} {c : Char} {cs rest : List Char}

/-- A character that is no gap is not skipped. -/
lemma skipGap_cons (hc : isGap c = false) : skipGap (c :: cs) = c :: cs := by
  rw [skipGap, List.dropWhile_cons, hc]
  rfl

/-- What begins a value does so whatever comes after it. -/
lemma Begins.append (h : Begins cs) : Begins (cs ++ rest) := by
  obtain ⟨c, more, rfl, hc⟩ := h
  exact ⟨c, more ++ rest, rfl, hc⟩

/-- A number stops where no digit, point or exponent comes. -/
lemma stops_cons (hc : ¬ c.isDigit ∧ c ≠ '.' ∧ c ≠ 'e' ∧ c ≠ 'E') : Stops (c :: cs) := by
  intro d hd
  obtain rfl := Option.some.inj hd
  exact hc

/-- An integer begins with a digit or with a minus sign. -/
lemma writeInt_eq_cons (z : Int) : ∃ c cs, writeInt z = c :: cs ∧ (c.isDigit ∨ c = '-') := by
  by_cases hz : z < 0
  · exact ⟨'-', _, if_pos hz, .inr rfl⟩
  · cases hd : Nat.toDigits 10 z.natAbs with
    | nil => exact absurd hd Nat.toDigits_ne_nil
    | cons d ds =>
      have hm : d ∈ Nat.toDigits 10 z.natAbs := hd ▸ List.mem_cons_self
      exact ⟨d, ds, (if_neg hz).trans hd,
        .inl (Nat.isDigit_of_mem_toDigits (by decide) (by decide) hm)⟩

/-- A number begins with a digit or a minus sign, and not with another character. -/
lemma ne_of_number (hc : c.isDigit ∨ c = '-') {d : Char} (hd : ¬ d.isDigit) (hm : d ≠ '-') :
    c ≠ d := by
  rintro rfl
  exact hc.elim hd hm

/-- A number does not begin with a gap. -/
lemma isGap_of_number (hc : c.isDigit ∨ c = '-') : isGap c = false := by
  have hs : c ≠ ' ' := ne_of_number hc (by decide) (by decide)
  have hn : c ≠ '\n' := ne_of_number hc (by decide) (by decide)
  have ht : c ≠ '\t' := ne_of_number hc (by decide) (by decide)
  have hr : c ≠ '\r' := ne_of_number hc (by decide) (by decide)
  simp [isGap, hs, hn, ht, hr]

/-- What begins with a digit or with a minus sign is read as a number. -/
lemma readValue_number (hc : c.isDigit ∨ c = '-') :
    readValue (fuel + 1) depth (c :: cs) = readNumber (c :: cs) := by
  have hn := ne_of_number hc (d := 'n') (by decide) (by decide)
  have ht := ne_of_number hc (d := 't') (by decide) (by decide)
  have hf := ne_of_number hc (d := 'f') (by decide) (by decide)
  have hq := ne_of_number hc (d := '"') (by decide) (by decide)
  have hb := ne_of_number hc (d := '[') (by decide) (by decide)
  have ho := ne_of_number hc (d := '\x7b') (by decide) (by decide)
  rw [readValue, skipGap_cons (isGap_of_number hc)]
  split <;> simp_all

/-- A value that can be read back begins like a value. -/
lemma Exact.begins (h : Exact v) : Begins (write v) := by
  cases h with
  | null => exact ⟨'n', _, rfl, rfl, by decide⟩
  | bool b => cases b with
    | true => exact ⟨'t', _, rfl, rfl, by decide⟩
    | false => exact ⟨'f', _, rfl, rfl, by decide⟩
  | @int z _ _ =>
    obtain ⟨c, cs, hw, hc⟩ := writeInt_eq_cons z
    exact ⟨c, cs, hw, isGap_of_number hc, ne_of_number hc (by decide) (by decide)⟩
  | str s => exact ⟨'"', _, rfl, rfl, by decide⟩
  | arr _ => exact ⟨'[', _, rfl, rfl, by decide⟩
  | obj _ _ => exact ⟨'\x7b', _, rfl, rfl, by decide⟩

section Items

variable {items : List Json}

/-- Items are read one after the other. -/
lemma readItems_writeItems (hi : ∀ v ∈ items, Reads v) (hb : ∀ v ∈ items, Begins (write v))
    (hne : items ≠ []) (hf : 2 * (writeItems items).length ≤ fuel) :
    readItems fuel depth (writeItems items ++ ']' :: rest) =
      if depthItems items ≤ depth then some (items, rest) else none := by
  induction items generalizing fuel with
  | nil => exact absurd rfl hne
  | cons v more ih =>
    obtain ⟨c, cs, hc, -⟩ := hb v List.mem_cons_self
    cases more with
    | nil =>
      rw [writeItems] at hf ⊢
      obtain ⟨fuel, rfl⟩ : ∃ f, fuel = f + 1 := ⟨fuel - 1, by simp [hc] at hf; omega⟩
      rw [readItems, hi v List.mem_cons_self fuel depth _ hf (stops_cons (by decide)), depthItems,
        depthItems, Nat.max_zero]
      by_cases hd : v.depth ≤ depth
      · rw [if_pos hd, if_pos hd]
        rfl
      · rw [if_neg hd, if_neg hd]
    | cons w more =>
      have hw : writeItems (v :: w :: more) = write v ++ ',' :: writeItems (w :: more) := rfl
      rw [hw] at hf ⊢
      obtain ⟨fuel, rfl⟩ : ∃ f, fuel = f + 1 := ⟨fuel - 1, by simp [hc] at hf; omega⟩
      simp only [List.length_append, List.length_cons] at hf
      have hrest : readItems fuel depth (writeItems (w :: more) ++ ']' :: rest) =
          if depthItems (w :: more) ≤ depth then some (w :: more, rest) else none :=
        ih (fun x hx => hi x (List.mem_cons_of_mem _ hx))
          (fun x hx => hb x (List.mem_cons_of_mem _ hx)) (by simp) (by omega)
      rw [List.append_assoc, List.cons_append, readItems,
        hi v List.mem_cons_self fuel depth _ (by omega) (stops_cons (by decide)), depthItems]
      by_cases hd : v.depth ≤ depth
      · rw [if_pos hd]
        simp only [skipGap_cons (show isGap ',' = false from rfl), hrest, Nat.max_le, hd, true_and]
        split <;> rfl
      · rw [if_neg hd, if_neg fun h => hd (Nat.max_le.1 h).1]

/-- The items of an array are read if they fit below it. -/
lemma readValue_arr (hi : ∀ v ∈ items, Reads v) (hb : ∀ v ∈ items, Begins (write v))
    (hf : 2 * (writeItems items).length ≤ fuel) :
    readValue (fuel + 1) depth ('[' :: writeItems items ++ ']' :: rest) =
      if depthItems items + 1 ≤ depth then some (.arr items, rest) else none := by
  cases depth with
  | zero => rfl
  | succ depth =>
    cases items with
    | nil => rfl
    | cons v more =>
      obtain ⟨c, cs, hc, hgap, hclose⟩ : Begins (writeItems (v :: more) ++ ']' :: rest) := by
        apply Begins.append
        cases more with
        | nil => exact hb v List.mem_cons_self
        | cons w more => exact (hb v List.mem_cons_self).append
      have hr : readItems fuel depth (writeItems (v :: more) ++ ']' :: rest) = _ :=
        readItems_writeItems hi hb (by simp) hf
      rw [hc] at hr
      rw [List.cons_append, hc, readValue, skipGap_cons (show isGap '[' = false from rfl)]
      simp only [skipGap_cons hgap, Nat.add_le_add_iff_right]
      split
      · rename_i h
        exact absurd (List.cons.inj h).1 hclose
      · rw [hr]
        split <;> rfl

end Items

section Members

variable {members : List (String × Json)}

/-- A key is read back as it is written. -/
lemma readString_key (k : String) (cs : List Char) :
    readString .plain (k.toList.flatMap writeChar ++ '"' :: cs) = some (k.toList, cs) :=
  readString_flatMap _ _

/-- The key of a member is read, and then its value. -/
lemma readMembers_member {k : String} (hv : Reads v) (hf : 2 * (write v).length ≤ fuel + 1)
    (hr : Stops (c :: cs)) (hc : isGap c = false) :
    readMembers (fuel + 1) depth (writeString k ++ ':' :: write v ++ c :: cs) =
      if v.depth ≤ depth then
        if c = ',' then (readMembers fuel depth cs).map fun r => ((k, v) :: r.1, r.2)
        else if c = '\x7d' then some ([(k, v)], cs)
        else none
      else none := by
  have hs : writeString k ++ ':' :: write v ++ c :: cs =
      '"' :: (k.toList.flatMap writeChar ++ '"' :: ':' :: (write v ++ c :: cs)) := by
    simp [writeString]
  rw [hs, readMembers, skipGap_cons (show isGap '"' = false from rfl)]
  simp only [readString_key, skipGap_cons (show isGap ':' = false from rfl),
    hv fuel depth _ hf hr]
  by_cases hd : v.depth ≤ depth
  · rw [if_pos hd, if_pos hd]
    simp only [skipGap_cons hc]
    split <;> simp_all
  · rw [if_neg hd, if_neg hd]

/-- Members are read one after the other. -/
lemma readMembers_writeMembers (hm : ∀ m ∈ members, Reads m.2) (hne : members ≠ [])
    (hf : 2 * (writeMembers members).length ≤ fuel) :
    readMembers fuel depth (writeMembers members ++ '\x7d' :: rest) =
      if depthMembers members ≤ depth then some (members, rest) else none := by
  induction members generalizing fuel with
  | nil => exact absurd rfl hne
  | cons m more ih =>
    obtain ⟨k, v⟩ := m
    have hv : Reads v := hm (k, v) List.mem_cons_self
    cases more with
    | nil =>
      rw [writeMembers] at hf ⊢
      simp only [List.length_append, List.length_cons] at hf
      obtain ⟨fuel, rfl⟩ : ∃ f, fuel = f + 1 := ⟨fuel - 1, by omega⟩
      rw [readMembers_member hv (by omega) (stops_cons (by decide)) rfl, depthMembers,
        depthMembers, Nat.max_zero]
      rfl
    | cons w more =>
      have hw : writeMembers ((k, v) :: w :: more) =
          writeString k ++ ':' :: write v ++ ',' :: writeMembers (w :: more) := rfl
      rw [hw] at hf ⊢
      simp only [List.length_append, List.length_cons] at hf
      obtain ⟨fuel, rfl⟩ : ∃ f, fuel = f + 1 := ⟨fuel - 1, by omega⟩
      have hrest : readMembers fuel depth (writeMembers (w :: more) ++ '\x7d' :: rest) =
          if depthMembers (w :: more) ≤ depth then some (w :: more, rest) else none :=
        ih (fun x hx => hm x (List.mem_cons_of_mem _ hx)) (by simp) (by omega)
      have hmax : depthMembers ((k, v) :: w :: more) = max v.depth (depthMembers (w :: more)) := rfl
      rw [List.append_assoc, List.cons_append,
        readMembers_member hv (by omega) (stops_cons (by decide)) rfl, if_pos rfl, hrest, hmax]
      by_cases hd : v.depth ≤ depth
      · rw [if_pos hd]
        simp only [Nat.max_le, hd, true_and]
        split <;> rfl
      · rw [if_neg hd, if_neg fun h => hd (Nat.max_le.1 h).1]

/-- The members of an object are read if they fit below it; a later one replaces an earlier one of
the same key. -/
lemma readValue_obj (hm : ∀ m ∈ members, Reads m.2)
    (hf : 2 * (writeMembers members).length ≤ fuel) :
    readValue (fuel + 1) depth ('\x7b' :: writeMembers members ++ '\x7d' :: rest) =
      if depthMembers members + 1 ≤ depth then some (.obj (Dictionary.ofList members), rest)
      else none := by
  cases depth with
  | zero => rfl
  | succ depth =>
    cases members with
    | nil => rfl
    | cons m more =>
      obtain ⟨k, v⟩ := m
      obtain ⟨cs, hc⟩ : ∃ cs, writeMembers ((k, v) :: more) ++ '\x7d' :: rest = '"' :: cs := by
        cases more with
        | nil => exact ⟨_, rfl⟩
        | cons w more => exact ⟨_, rfl⟩
      have hr : readMembers fuel depth (writeMembers ((k, v) :: more) ++ '\x7d' :: rest) = _ :=
        readMembers_writeMembers hm (by simp) hf
      rw [hc] at hr
      rw [List.cons_append, hc, readValue, skipGap_cons (show isGap '\x7b' = false from rfl)]
      simp only [skipGap_cons (show isGap '"' = false from rfl), Nat.add_le_add_iff_right]
      split
      · rename_i h
        exact absurd (List.cons.inj h).1 (by decide)
      · rw [hr]
        split <;> rfl

end Members

/-- No text is read without fuel, and none is empty. -/
lemma reads_of_succ (hb : Begins (write v))
    (h : ∀ fuel depth rest, 2 * (write v).length ≤ fuel + 2 → Stops rest →
      readValue (fuel + 1) depth (write v ++ rest) =
        if v.depth ≤ depth then some (v, rest) else none) : Reads v := by
  intro fuel depth rest hf hr
  obtain ⟨c, cs, hc, -⟩ := hb
  cases fuel with
  | zero =>
    rw [hc, List.length_cons] at hf
    omega
  | succ fuel => exact h fuel depth rest hf hr

/-- An exact value is read from its text. -/
lemma Exact.reads (h : Exact v) : Reads v := by
  induction h with
  | null =>
    refine reads_of_succ Exact.null.begins fun fuel depth rest hf hr => ?_
    exact (if_pos (Nat.zero_le depth)).symm
  | bool b =>
    refine reads_of_succ (Exact.bool b).begins fun fuel depth rest hf hr => ?_
    cases b <;> exact (if_pos (Nat.zero_le depth)).symm
  | @int z hlow hhigh =>
    refine reads_of_succ (Exact.int hlow hhigh).begins fun fuel depth rest hf hr => ?_
    obtain ⟨c, cs, hw, hc⟩ := writeInt_eq_cons z
    have hd : (Json.int z).depth ≤ depth := Nat.zero_le depth
    have hn := readNumber_writeInt hlow hhigh hr
    rw [hw, List.cons_append] at hn
    rw [if_pos hd, write, hw, List.cons_append, readValue_number hc, hn]
  | str s =>
    refine reads_of_succ (Exact.str s).begins fun fuel depth rest hf hr => ?_
    have hd : (Json.str s).depth ≤ depth := Nat.zero_le depth
    have hw : write (.str s) ++ rest = '"' :: (s.toList.flatMap writeChar ++ '"' :: rest) := by
      simp [write, writeString]
    rw [if_pos hd, hw, readValue, skipGap_cons (show isGap '"' = false from rfl)]
    simp only [readString_key, Option.map_some, String.ofList_toList]
  | @arr items hi ih =>
    refine reads_of_succ (Exact.arr hi).begins fun fuel depth rest hf hr => ?_
    have hd : (Json.arr items).depth = depthItems items + 1 := rfl
    rw [write] at hf ⊢
    simp only [List.length_append, List.length_cons] at hf
    rw [List.append_assoc, List.singleton_append, hd]
    exact readValue_arr ih (fun v hv => (hi v hv).begins) (by omega)
  | @obj members hk hm ih =>
    refine reads_of_succ (Exact.obj hk hm).begins fun fuel depth rest hf hr => ?_
    have hd : (Json.obj members).depth = depthMembers members + 1 := rfl
    rw [write] at hf ⊢
    simp only [List.length_append, List.length_cons] at hf
    rw [List.append_assoc, List.singleton_append, hd, readValue_obj ih (by omega),
      Dictionary.ofList_of_pairwise String.lt_asymm hk]

/-- The text of an exact value holds that value for every reader that goes deep enough. -/
theorem parseWithin_write (h : Exact v) :
    parseWithin depth (write v) = if v.depth ≤ depth then some v else none := by
  have hr := h.reads (2 * (write v).length + 2) depth [] (by omega) (by simp [Stops])
  rw [List.append_nil] at hr
  rw [parseWithin, hr]
  by_cases hd : v.depth ≤ depth
  · rw [if_pos hd, if_pos hd]
    rfl
  · rw [if_neg hd, if_neg hd]

/-- Members that are not in order, or of which several have the same key, are read as a
dictionary in which the last of them counts. -/
theorem parseWithin_members {members : List (String × Json)} (h : ∀ m ∈ members, Exact m.2) :
    parseWithin depth ('\x7b' :: writeMembers members ++ ['\x7d']) =
      if depthMembers members + 1 ≤ depth then some (.obj (Dictionary.ofList members))
      else none := by
  have hm : ∀ m ∈ members, Reads m.2 := fun m hm => (h m hm).reads
  rw [parseWithin, readValue_obj hm (by simp; omega)]
  by_cases hd : depthMembers members + 1 ≤ depth
  · rw [if_pos hd, if_pos hd]
    rfl
  · rw [if_neg hd, if_neg hd]

/-- Octets that hold the text of an exact value hold that value, unless it is nested too deep. -/
theorem ofBytes?_encode_render (h : Exact v) :
    ofBytes? (Utf8.encode (render v)) = if v.depth ≤ maxDepth then some v else none := by
  rw [ofBytes?, Utf8.decode?_encode, Option.bind_some, parse?, render, String.toList_ofList]
  exact parseWithin_write h

end ChangeFeed.Json
