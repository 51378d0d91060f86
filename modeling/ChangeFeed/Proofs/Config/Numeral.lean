import ChangeFeed.Text.Blank
import ChangeFeed.Text.Numeral
import Mathlib.Data.List.DropRight
import Mathlib.Tactic.Common

/-!
# Numerals as a grammar

`Numeral` says what a numeral is without saying how one is read, and `Padded` adds the blanks that
may stand around it. Reading succeeds exactly on the numerals whose value lies within the bound;
where reading stops early, because the value is past the bound already, no further digit could bring
it back. `Misread` says of every other text why it is not read.
-/

namespace ChangeFeed.Text

/-- A text is a numeral of the given value: an optional plus sign and one or more ASCII digits. -/
inductive Numeral : List Char → Nat → Prop where
  | unsigned {digits} :
    digits ≠ [] →
    (∀ c ∈ digits, c.isDigit) →
    Numeral digits (Nat.ofDigitChars 10 digits 0)
  | signed {digits} :
    digits ≠ [] →
    (∀ c ∈ digits, c.isDigit) →
    Numeral ('+' :: digits) (Nat.ofDigitChars 10 digits 0)

/-- A text is a numeral of the given value, with any blanks before and after it. -/
inductive Padded : List Char → Nat → Prop where
  | mk {before core after n} :
    (∀ c ∈ before, isBlank c) →
    (∀ c ∈ after, isBlank c) →
    Numeral core n →
    Padded (before ++ core ++ after) n

/-- After some digits a character comes at which a numeral stops: it is no digit, or one that takes
the value past the bound. -/
inductive Stops (bound value : Nat) : List Char → NumeralError → Prop where
  | badDigit {digits c rest} :
    (∀ d ∈ digits, d.isDigit) →
    Nat.ofDigitChars 10 digits value ≤ bound →
    ¬ c.isDigit →
    Stops bound value (digits ++ c :: rest) .badDigit
  | tooLarge {digits c rest} :
    (∀ d ∈ digits, d.isDigit) →
    Nat.ofDigitChars 10 digits value ≤ bound →
    c.isDigit →
    bound < Nat.ofDigitChars 10 (digits ++ [c]) value →
    Stops bound value (digits ++ c :: rest) .tooLarge

/-- Why a text is no numeral within the bound. -/
inductive Misread (bound : Nat) : List Char → NumeralError → Prop where
  | empty :
    Misread bound [] .empty
  | loneSign :
    Misread bound ['+'] .badDigit
  | unsigned {cs cause} :
    cs.head? ≠ some '+' →
    Stops bound 0 cs cause →
    Misread bound cs cause
  | signed {cs cause} :
    Stops bound 0 cs cause →
    Misread bound ('+' :: cs) cause

/-- Why a text is no numeral within the bound of a number other than zero. -/
inductive MisreadPositive (bound : Nat) : List Char → NumeralError → Prop where
  | misread {cs cause} :
    Misread bound cs cause →
    MisreadPositive bound cs cause
  | zero {cs} :
    Numeral cs 0 →
    MisreadPositive bound cs .zero

variable {bound value n : Nat} {c : Char} {cs : List Char} {cause : NumeralError}

/-- A decimal digit has its value. -/
lemma digit?_of_isDigit (hc : c.isDigit) : digit? c = some (c.toNat - '0'.toNat) := by
  have hr : '0' ≤ c ∧ c ≤ '9' := by
    simpa [Char.isDigit, Char.le_def] using hc
  exact if_pos hr

/-- What is no decimal digit has no value. -/
lemma digit?_of_not_isDigit (hc : ¬ c.isDigit) : digit? c = none := by
  have hr : ¬ ('0' ≤ c ∧ c ≤ '9') := by
    simpa [Char.isDigit, Char.le_def] using hc
  exact if_neg hr

/-- Further digits never make a value smaller. -/
lemma le_ofDigitChars (value : Nat) (cs : List Char) : value ≤ Nat.ofDigitChars 10 cs value := by
  induction cs generalizing value with
  | nil => exact Nat.le_refl _
  | cons c rest ih =>
    rw [Nat.ofDigitChars_cons]
    have := ih (10 * value + (c.toNat - '0'.toNat))
    omega

/-- Reading goes through exactly if all characters are digits and the value is within the bound. -/
lemma readDigits_eq_ok_iff (hv : value ≤ bound) :
    readDigits bound value cs = .ok n ↔
      (∀ c ∈ cs, c.isDigit) ∧ Nat.ofDigitChars 10 cs value = n ∧ n ≤ bound := by
  induction cs generalizing value with
  | nil =>
    have hn : readDigits bound value [] = .ok n ↔ value = n := by simp [readDigits]
    rw [hn]
    constructor
    · rintro rfl
      exact ⟨nofun, rfl, hv⟩
    · exact fun h => h.2.1
  | cons c rest ih =>
    by_cases hc : c.isDigit
    · rw [readDigits, digit?_of_isDigit hc, Nat.ofDigitChars_cons, Nat.mul_comm 10 value]
      dsimp only
      split
      · rename_i hlt
        -- the value is past the bound and stays there
        have hle := le_ofDigitChars (value * 10 + (c.toNat - '0'.toNat)) rest
        constructor
        · exact fun h => absurd h (by simp)
        · rintro ⟨-, rfl, hn⟩
          omega
      · rw [ih (by omega)]
        simp [hc]
    · rw [readDigits, digit?_of_not_isDigit hc]
      simp [hc]

/-- The numerals that are read are those whose value is within the bound. -/
lemma readNumeral_eq_ok_iff : readNumeral bound cs = .ok n ↔ Numeral cs n ∧ n ≤ bound := by
  unfold readNumeral
  split
  · constructor
    · exact fun h => absurd h (by simp)
    · rintro ⟨hc, -⟩
      cases hc with
      | unsigned hne _ => exact absurd rfl hne
  · constructor
    · exact fun h => absurd h (by simp)
    · rintro ⟨hc, -⟩
      cases hc with
      | unsigned _ hd => exact absurd (hd '+' (by simp)) (by decide)
      | signed hne _ => exact absurd rfl hne
  · rename_i rest hne
    rw [readDigits_eq_ok_iff (Nat.zero_le _)]
    constructor
    · rintro ⟨hd, rfl, hn⟩
      exact ⟨.signed (by rintro rfl; exact hne rfl) hd, hn⟩
    · rintro ⟨hc, hn⟩
      cases hc with
      | unsigned _ hd => exact absurd (hd '+' (by simp)) (by decide)
      | signed _ hd => exact ⟨hd, rfl, hn⟩
  · rename_i hne _ hs
    rw [readDigits_eq_ok_iff (Nat.zero_le _)]
    constructor
    · rintro ⟨hd, rfl, hn⟩
      exact ⟨.unsigned hne hd, hn⟩
    · rintro ⟨hc, hn⟩
      cases hc with
      | unsigned _ hd => exact ⟨hd, rfl, hn⟩
      | signed _ _ => exact absurd rfl (hs _)

/-- Positive numerals within a bound. -/
lemma readPositive_eq_ok_iff {m : { n : Nat // 0 < n }} :
    readPositive bound cs = .ok m ↔ Numeral cs m.1 ∧ m.1 ≤ bound := by
  rw [← readNumeral_eq_ok_iff, readPositive]
  obtain ⟨m, hm⟩ := m
  rcases readNumeral bound cs with cause | _ | n
  · simp
  · simp
    omega
  · simp [Subtype.ext_iff]

/-- A digit that keeps the value within the bound is not where a numeral stops. -/
lemma stops_cons_iff (hc : c.isDigit) (hb : 10 * value + (c.toNat - '0'.toNat) ≤ bound) :
    Stops bound value (c :: cs) cause ↔
      Stops bound (10 * value + (c.toNat - '0'.toNat)) cs cause := by
  constructor
  · intro hs
    generalize ht : c :: cs = text at hs
    cases hs with
    | @badDigit digits x rest hd hle hx =>
      obtain ⟨rfl, hr⟩ | ⟨digits, rfl, rfl⟩ := List.cons_eq_append_iff.1 ht
      · cases hr
        exact absurd hc hx
      · exact .badDigit (List.forall_mem_cons.1 hd).2 hle hx
    | @tooLarge digits x rest hd hle hx hlt =>
      obtain ⟨rfl, hr⟩ | ⟨digits, rfl, rfl⟩ := List.cons_eq_append_iff.1 ht
      · cases hr
        rw [List.nil_append, Nat.ofDigitChars_cons, Nat.ofDigitChars_nil] at hlt
        omega
      · exact .tooLarge (List.forall_mem_cons.1 hd).2 hle hx hlt
  · intro hs
    cases hs with
    | badDigit hd hle hx =>
      rw [← List.cons_append]
      exact .badDigit (List.forall_mem_cons.2 ⟨hc, hd⟩) hle hx
    | tooLarge hd hle hx hlt =>
      rw [← List.cons_append]
      exact .tooLarge (List.forall_mem_cons.2 ⟨hc, hd⟩) hle hx hlt

/-- The first character decides why a numeral stops, if it stops there. -/
lemma stops_cons_iff_of_stop (hv : value ≤ bound)
    (hb : c.isDigit → bound < 10 * value + (c.toNat - '0'.toNat)) :
    Stops bound value (c :: cs) cause ↔
      cause = if c.isDigit then .tooLarge else .badDigit := by
  constructor
  · intro hs
    generalize ht : c :: cs = text at hs
    -- no digit before the one that stops the numeral takes the value past the bound
    have hnone : ∀ digits, (∀ d ∈ c :: digits, d.isDigit) →
        ¬ Nat.ofDigitChars 10 (c :: digits) value ≤ bound := by
      intro digits hd hle
      have hlt := hb (hd c List.mem_cons_self)
      have hmono := le_ofDigitChars (10 * value + (c.toNat - '0'.toNat)) digits
      rw [Nat.ofDigitChars_cons] at hle
      omega
    cases hs with
    | @badDigit digits x rest hd hle hx =>
      obtain ⟨rfl, hr⟩ | ⟨digits, rfl, rfl⟩ := List.cons_eq_append_iff.1 ht
      · cases hr
        rw [if_neg hx]
      · exact absurd hle (hnone _ hd)
    | @tooLarge digits x rest hd hle hx hlt =>
      obtain ⟨rfl, hr⟩ | ⟨digits, rfl, rfl⟩ := List.cons_eq_append_iff.1 ht
      · cases hr
        rw [if_pos hx]
      · exact absurd hle (hnone _ hd)
  · rintro rfl
    rw [← List.nil_append (c :: cs)]
    split
    · rename_i hc
      refine .tooLarge nofun hv hc ?_
      rw [List.nil_append, Nat.ofDigitChars_cons, Nat.ofDigitChars_nil]
      exact hb hc
    · rename_i hc
      exact .badDigit nofun hv hc

/-- Reading digits fails where they stop being a numeral within the bound. -/
lemma readDigits_eq_error_iff (hv : value ≤ bound) :
    readDigits bound value cs = .error cause ↔ Stops bound value cs cause := by
  induction cs generalizing value with
  | nil =>
    constructor
    · exact fun h => absurd h (by simp [readDigits])
    · intro hs
      generalize ht : [] = text at hs
      cases hs <;> simp at ht
  | cons c rest ih =>
    by_cases hc : c.isDigit
    · rw [readDigits, digit?_of_isDigit hc, Nat.mul_comm value 10]
      dsimp only
      split
      · rename_i hlt
        rw [stops_cons_iff_of_stop hv fun _ => hlt, if_pos hc, Except.error.injEq]
        exact eq_comm
      · rename_i hle
        rw [ih (Nat.le_of_not_lt hle), stops_cons_iff hc (Nat.le_of_not_lt hle)]
    · rw [readDigits, digit?_of_not_isDigit hc,
        stops_cons_iff_of_stop hv fun h => absurd h hc, if_neg hc]
      simp [eq_comm]

/-- Digits that stop somewhere are some. -/
lemma Stops.ne_nil (hs : Stops bound value cs cause) : cs ≠ [] := by
  cases hs <;> simp

/-- A text that does not begin with a plus sign has none at its head. -/
lemma head?_ne_of_ne_cons (hcs : ∀ rest, cs ≠ '+' :: rest) : cs.head? ≠ some '+' := by
  intro hh
  obtain ⟨rest, hr⟩ := List.head?_eq_some_iff.1 hh
  exact hcs rest hr

/-- A text that is no numeral within the bound is not read, for the reason why it is none. -/
lemma readNumeral_eq_error_iff : readNumeral bound cs = .error cause ↔ Misread bound cs cause := by
  unfold readNumeral
  split
  · rw [Except.error.injEq]
    constructor
    · rintro rfl
      exact .empty
    · rintro (_ | _ | ⟨-, hs⟩)
      · rfl
      · exact absurd rfl hs.ne_nil
  · rw [Except.error.injEq]
    constructor
    · rintro rfl
      exact .loneSign
    · rintro (_ | _ | ⟨hne, -⟩ | hs)
      · rfl
      · exact absurd rfl hne
      · exact absurd rfl hs.ne_nil
  · rename_i rest hne
    rw [readDigits_eq_error_iff (Nat.zero_le _)]
    constructor
    · exact .signed
    · rintro (_ | _ | ⟨hh, -⟩ | hs)
      · exact absurd rfl hne
      · exact absurd rfl hh
      · exact hs
  · rename_i hne _ hs
    rw [readDigits_eq_error_iff (Nat.zero_le _)]
    constructor
    · exact .unsigned (head?_ne_of_ne_cons hs)
    · rintro (_ | _ | ⟨-, hstop⟩ | hstop)
      · exact absurd rfl hne
      · exact absurd rfl (hs _)
      · exact hstop
      · exact absurd rfl (hs _)

/-- Positive numbers are misread for what is wrong with the numeral. -/
lemma readPositive_eq_error_iff :
    readPositive bound cs = .error cause ↔ MisreadPositive bound cs cause := by
  have hzero : readNumeral bound cs = .ok 0 ↔ Numeral cs 0 := by
    rw [readNumeral_eq_ok_iff]
    exact and_iff_left (Nat.zero_le _)
  have hmis : MisreadPositive bound cs cause ↔
      readNumeral bound cs = .error cause ∨ readNumeral bound cs = .ok 0 ∧ cause = .zero := by
    rw [readNumeral_eq_error_iff, hzero]
    constructor
    · rintro (hm | hz)
      · exact .inl hm
      · exact .inr ⟨hz, rfl⟩
    · rintro (hm | ⟨hz, rfl⟩)
      · exact .misread hm
      · exact .zero hz
  rw [hmis, readPositive]
  rcases readNumeral bound cs with cause | _ | n
  · simp
  · simp [eq_comm]
  · simp

/-- No blank is part of a numeral. -/
lemma Numeral.not_isBlank (hn : Numeral cs n) (hc : c ∈ cs) : ¬ isBlank c := by
  have hdigit : ∀ d : Char, d.isDigit → ¬ isBlank d := by
    intro d hd
    have hr : 48 ≤ d.toNat ∧ d.toNat ≤ 57 := by
      simpa [Char.isDigit, UInt32.le_iff_toNat_le] using hd
    simp [isBlank]
    omega
  cases hn with
  | unsigned _ hd => exact hdigit c (hd c hc)
  | signed _ hd =>
    rcases List.mem_cons.1 hc with rfl | hc
    · decide
    · exact hdigit c (hd c hc)

/-- A numeral is not empty. -/
lemma Numeral.ne_nil (hn : Numeral cs n) : cs ≠ [] := by
  cases hn with
  | unsigned hne _ => exact hne
  | signed _ _ => simp

/-- Trimming takes nothing but blanks away, and those at the two ends only. -/
lemma exists_trim (cs : List Char) :
    ∃ before after, cs = before ++ trim cs ++ after ∧ (∀ c ∈ before, isBlank c) ∧
      ∀ c ∈ after, isBlank c := by
  have hr : cs.dropWhile isBlank =
      trim cs ++ (cs.dropWhile isBlank).rtakeWhile isBlank :=
    (List.rdropWhile_append_rtakeWhile ..).symm
  refine ⟨cs.takeWhile isBlank, (cs.dropWhile isBlank).rtakeWhile isBlank, ?_, ?_, ?_⟩
  · rw [List.append_assoc, ← hr, List.takeWhile_append_dropWhile]
  · exact fun c hc => List.mem_takeWhile_imp hc
  · exact fun c hc => List.mem_rtakeWhile_imp hc

/-- Where no character is blank, trimming takes away what blanks stand around. -/
lemma trim_append {before core after : List Char} (hb : ∀ c ∈ before, isBlank c)
    (ha : ∀ c ∈ after, isBlank c) (hne : core ≠ []) (hc : ∀ c ∈ core, ¬ isBlank c) :
    trim (before ++ core ++ after) = core := by
  have hfront : ∀ rest, (core ++ rest).dropWhile isBlank = core ++ rest := by
    intro rest
    obtain ⟨c, core, rfl⟩ := List.exists_cons_of_ne_nil hne
    exact List.dropWhile_cons_of_neg (hc c (by simp))
  have hback : (after.reverse ++ core.reverse).dropWhile isBlank = core.reverse := by
    rw [List.dropWhile_append_of_pos (by simpa using ha)]
    obtain ⟨c, rest, hr⟩ := List.exists_cons_of_ne_nil (List.reverse_ne_nil_iff.2 hne)
    rw [hr]
    have hm : c ∈ core := List.mem_reverse.1 (hr ▸ List.mem_cons_self)
    exact List.dropWhile_cons_of_neg (hc c hm)
  rw [trim, List.append_assoc, List.dropWhile_append_of_pos hb, hfront, List.reverse_append, hback,
    List.reverse_reverse]

/-- A text is a padded numeral just if it is one once it is trimmed. -/
lemma numeral_trim_iff : Numeral (trim cs) n ↔ Padded cs n := by
  constructor
  · intro hn
    obtain ⟨before, after, hcs, hb, ha⟩ := exists_trim cs
    rw [hcs]
    exact .mk hb ha hn
  · rintro ⟨hb, ha, hn⟩
    rwa [trim_append hb ha hn.ne_nil fun _ => hn.not_isBlank]

/-- Nothing is left of a text exactly if all of it is blank. -/
lemma trim_eq_nil_iff : trim cs = [] ↔ ∀ c ∈ cs, isBlank c := by
  constructor
  · intro ht
    obtain ⟨before, after, hcs, hb, ha⟩ := exists_trim cs
    rw [ht, List.append_nil] at hcs
    rw [hcs]
    simpa [or_imp, forall_and] using ⟨hb, ha⟩
  · intro h
    rw [trim, List.dropWhile_eq_nil_iff.2 h]
    rfl

end ChangeFeed.Text
