/-!
# Unsigned numerals

A numeral is an optional plus sign and one or more ASCII digits. It is read from left to right,
and reading stops at the first character that is no digit or takes the value past the bound.
-/

namespace ChangeFeed.Text

/-- Why a text is no numeral within its bound. -/
inductive NumeralError where
  | empty
  | badDigit
  | tooLarge
  | zero
deriving Repr, DecidableEq

/-- The wording of each cause. -/
def NumeralError.message : NumeralError → String
  | .empty => "cannot parse integer from empty string"
  | .badDigit => "invalid digit found in string"
  | .tooLarge => "number too large to fit in target type"
  | .zero => "number would be zero for non-zero type"

/-- The value of an ASCII digit. -/
def digit? (c : Char) : Option Nat :=
  if '0' ≤ c ∧ c ≤ '9' then some (c.toNat - '0'.toNat) else none

/-- Goes on with a numeral whose digits so far have the given value. -/
def readDigits (bound value : Nat) : List Char → Except NumeralError Nat
  | [] => .ok value
  | c :: rest =>
    match digit? c with
    | none => .error .badDigit
    | some d =>
      let next := value * 10 + d
      if bound < next then .error .tooLarge else readDigits bound next rest

/-- The value of a numeral that is at most `bound`. -/
def readNumeral (bound : Nat) : List Char → Except NumeralError Nat
  | [] => .error .empty
  | ['+'] => .error .badDigit
  | '+' :: rest => readDigits bound 0 rest
  | cs => readDigits bound 0 cs

/-- The value of a numeral that is at most `bound` and not zero. -/
def readPositive (bound : Nat) (cs : List Char) : Except NumeralError { n : Nat // 0 < n } :=
  match readNumeral bound cs with
  | .error e => .error e
  | .ok 0 => .error .zero
  | .ok (n + 1) => .ok ⟨n + 1, n.succ_pos⟩

/-- Reading digits never goes past the bound. -/
theorem readDigits_le {bound value n : Nat} {cs : List Char} (hv : value ≤ bound)
    (h : readDigits bound value cs = .ok n) : n ≤ bound := by
  fun_induction readDigits bound value cs with
  | case1 => grind
  | case2 => grind
  | case3 => grind
  | case4 => grind

/-- A numeral that is read lies within its bound. -/
theorem readNumeral_le {bound n : Nat} {cs : List Char} (h : readNumeral bound cs = .ok n) :
    n ≤ bound := by
  unfold readNumeral at h
  split at h
  · cases h
  · cases h
  · exact readDigits_le (Nat.zero_le _) h
  · exact readDigits_le (Nat.zero_le _) h

end ChangeFeed.Text
