import ChangeFeed.Json.Reader
import ChangeFeed.Json.Writer
import ChangeFeed.Proofs.Config.Numeral
import Mathlib.Algebra.Group.Int.Defs
import Mathlib.Algebra.Group.Nat.Defs

/-!
# Strings and integers survive being written

`readString_flatMap` reads back the characters of a string, `readNumber_writeInt` an integer that
fits 64 bits, signed or unsigned. An integer ends where the text after it goes on with something
that is not part of a number, which is what `Stops` says.
-/

namespace ChangeFeed.Json

variable {n : Nat} {c : Char} {cs rest : List Char}

/-- A hexadecimal digit is read back. -/
lemma hexDigit?_digitChar (hn : n < 16) : hexDigit? (Nat.digitChar n) = some n := by
  have h : ∀ m < 16, hexDigit? (Nat.digitChar m) = some m := by decide
  exact h n hn

/-- Four digits of a unit that is no surrogate are read as one character. -/
lemma readString_control (hc : c < ' ') :
    readString .plain ('\\' :: 'u' :: '0' :: '0' :: Nat.digitChar (c.toNat / 16) ::
        Nat.digitChar (c.toNat % 16) :: rest) = consChar c (readString .plain rest) := by
  have hn : c.toNat < 32 := by simpa [Char.lt_def, UInt32.lt_iff_toNat_lt] using hc
  have hv : c.toNat / 16 * 16 + c.toNat % 16 = c.toNat := Nat.div_add_mod' _ _
  have hh : isHigh c.toNat = false := by
    simp only [isHigh, Bool.and_eq_false_iff, decide_eq_false_iff_not]
    omega
  have hl : isLow c.toNat = false := by
    simp only [isLow, Bool.and_eq_false_iff, decide_eq_false_iff_not]
    omega
  have h0 : hexDigit? '0' = some 0 := by decide
  simp [readString, h0, hexDigit?_digitChar (show c.toNat / 16 < 16 by omega),
    hexDigit?_digitChar (show c.toNat % 16 < 16 by omega), hv, hh, hl, Char.ofNat_toNat]

/-- A character is read back from the way in which it is written. -/
lemma readString_writeChar (c : Char) :
    readString .plain (writeChar c ++ rest) = consChar c (readString .plain rest) := by
  unfold writeChar
  split_ifs with hquote hslash hb ht hn hf hr hc
  · subst hquote
    rfl
  · subst hslash
    rfl
  · subst hb
    rfl
  · subst ht
    rfl
  · subst hn
    rfl
  · subst hf
    rfl
  · subst hr
    rfl
  · exact readString_control hc
  · rw [List.singleton_append, readString, if_neg hquote, if_neg hslash, if_neg hc]

/-- A string is read back up to its closing quote. -/
lemma readString_flatMap (cs rest : List Char) :
    readString .plain (cs.flatMap writeChar ++ '"' :: rest) = some (cs, rest) := by
  induction cs with
  | nil => rfl
  | cons c more ih =>
    rw [List.flatMap_cons, List.append_assoc, readString_writeChar, ih]
    rfl

/-- The text does not go on with a part of a number. -/
def Stops (rest : List Char) : Prop :=
  ∀ c ∈ rest.head?, ¬ c.isDigit ∧ c ≠ '.' ∧ c ≠ 'e' ∧ c ≠ 'E'

/-- Digits are split from what is none. -/
lemma splitDigits_append (hd : ∀ c ∈ cs, c.isDigit) (hr : Stops rest) :
    splitDigits (cs ++ rest) = (cs, rest) := by
  have ht : rest.takeWhile Char.isDigit = [] ∧ rest.dropWhile Char.isDigit = rest := by
    cases rest with
    | nil => exact ⟨rfl, rfl⟩
    | cons c more =>
      have hc : c.isDigit = false := by simpa using (hr c rfl).1
      simp [hc]
  rw [splitDigits, List.takeWhile_append_of_pos hd, List.dropWhile_append_of_pos hd, ht.1, ht.2,
    List.append_nil]

/-- There is no fraction where a number stops. -/
lemma readFraction_of_stops (hr : Stops rest) : readFraction rest = some (none, rest) := by
  cases rest with
  | nil => rfl
  | cons c more =>
    unfold readFraction
    split
    · rename_i h
      obtain ⟨rfl, -⟩ := List.cons.inj h
      exact absurd rfl (hr '.' rfl).2.1
    · rfl

/-- There is no exponent where a number stops. -/
lemma readExponent_of_stops (hr : Stops rest) : readExponent rest = some (none, rest) := by
  cases rest with
  | nil => rfl
  | cons c more =>
    obtain ⟨-, -, he, hE⟩ := hr c rfl
    exact if_neg (not_or.2 ⟨he, hE⟩)

/-- Only zero is written with a zero in front. -/
lemma toDigits_ne_zero_cons (n : Nat) (d : Char) (ds : List Char) :
    Nat.toDigits 10 n ≠ '0' :: d :: ds := by
  induction n using Nat.strongRecOn generalizing d ds with
  | ind n ih =>
    by_cases hn : n < 10
    · rw [Nat.toDigits_of_lt_base hn]
      simp
    · rw [Nat.toDigits_of_base_le (by decide) (by omega)]
      intro h
      cases hs : Nat.toDigits 10 (n / 10) with
      | nil => exact Nat.toDigits_ne_nil hs
      | cons a more =>
        rw [hs] at h
        obtain ⟨rfl, hm⟩ := List.cons.inj h
        cases more with
        | nil =>
          -- the last digit stands alone, so it is not zero
          have hz : Nat.ofDigitChars 10 (Nat.toDigits 10 (n / 10)) 0 = n / 10 :=
            Nat.ofDigitChars_toDigits (by decide) (by decide)
          rw [hs] at hz
          have : n / 10 = 0 := hz.symm
          omega
        | cons b more => exact ih (n / 10) (by omega) b more hs

/-- A number that fits is read digit by digit. -/
lemma significand_eq {value : Nat} (h : Nat.ofDigitChars 10 cs value ≤ maxSignificand) :
    significand value cs = (Nat.ofDigitChars 10 cs value, 0) := by
  induction cs generalizing value with
  | nil => rfl
  | cons c more ih =>
    rw [Nat.ofDigitChars_cons, Nat.mul_comm] at h ⊢
    rw [significand, if_neg (Nat.not_lt.2 (Nat.le_trans (Text.le_ofDigitChars _ _) h)), ih h]

/-- The digits of an integer are taken apart from a text that stops the number. -/
lemma readNumberText_writeInt (z : Int) (hr : Stops rest) :
    readNumberText (writeInt z ++ rest) =
      some (⟨decide (z < 0), Nat.toDigits 10 z.natAbs, none, none⟩, rest) := by
  have hdigits : ∀ c ∈ Nat.toDigits 10 z.natAbs, c.isDigit :=
    fun c hc => Nat.isDigit_of_mem_toDigits (by decide) (by decide) hc
  have hs := splitDigits_append hdigits hr
  have hzero := toDigits_ne_zero_cons z.natAbs
  cases hds : Nat.toDigits 10 z.natAbs with
  | nil => exact absurd hds Nat.toDigits_ne_nil
  | cons d ds =>
    rw [hds] at hdigits hs hzero
    have hd : d ≠ '-' := by
      rintro rfl
      exact absurd (hdigits '-' List.mem_cons_self) (by decide)
    have hsign : ∀ r, d :: ds ++ rest = '-' :: r → False := by
      intro r h
      exact hd (List.cons.inj h).1
    by_cases hz : z < 0
    · rw [writeInt, if_pos hz, hds, List.cons_append, readNumberText]
      simp only [hs]
      simp [readFraction_of_stops hr, readExponent_of_stops hr, hz]
    · rw [writeInt, if_neg hz, hds, readNumberText]
      · simp only [hs]
        simp [readFraction_of_stops hr, readExponent_of_stops hr, hz]
      · exact hsign

/-- An integer that fits 64 bits, signed or unsigned, is read back. -/
lemma readNumber_writeInt {z : Int} (hlow : -2 ^ 63 ≤ z) (hhigh : z < 2 ^ 64) (hr : Stops rest) :
    readNumber (writeInt z ++ rest) = some (.int z, rest) := by
  have hn : Nat.ofDigitChars 10 (Nat.toDigits 10 z.natAbs) 0 = z.natAbs :=
    Nat.ofDigitChars_toDigits (by decide) (by decide)
  have hle : z.natAbs ≤ maxSignificand := by
    show z.natAbs ≤ 18446744073709551615
    omega
  have hs : significand 0 (Nat.toDigits 10 z.natAbs) = _ := significand_eq (hn.le.trans hle)
  have hv : NumberText.value ⟨decide (z < 0), Nat.toDigits 10 z.natAbs, none, none⟩ =
      some (.int z) := by
    by_cases hz : z < 0
    · have hm : ¬ (z.natAbs = 0 ∨ maxNegative < z.natAbs) := by
        show ¬ (z.natAbs = 0 ∨ 9223372036854775808 < z.natAbs)
        omega
      have he : -(z.natAbs : Int) = z := by omega
      simp only [NumberText.value, hs, hn, hz, hm, he, decide_true, not_true_eq_false, if_false]
    · have he : (z.natAbs : Int) = z := by omega
      simp only [NumberText.value, hs, hn, hz, he, decide_false, Bool.false_eq_true,
        not_false_eq_true, if_true]
  simp [readNumber, readNumberText_writeInt z hr, hv]

end ChangeFeed.Json
