import ChangeFeed.Json.Basic
import ChangeFeed.Text.Numeral
import ChangeFeed.Text.Utf8

/-!
# Reading JSON

A strict reader: nothing but the grammar is accepted, at most 127 arrays and objects lie inside
one another, and of members with the same key the last one counts. An integer that fits 64 bits,
signed or unsigned, stays an integer; any other number becomes a double, and one too large for a
double is refused. Strings are read by a machine that looks at one character at a time.
-/

namespace ChangeFeed.Json

/-- The greatest number of arrays and objects inside one another. -/
def maxDepth : Nat := 127

/-- Blanks between tokens. -/
def isGap (c : Char) : Bool :=
  c == ' ' || c == '\n' || c == '\t' || c == '\r'

/-- The text without the blanks in front of it. -/
def skipGap (cs : List Char) : List Char :=
  cs.dropWhile isGap

/-- The state of the reader inside a string: between characters, after a backslash, inside the
four digits of a code unit, or before the second half of a surrogate pair. -/
inductive StringState where
  | plain
  | escape
  | unit (high : Option Nat) (missing value : Nat)
  | pairSlash (high : Nat)
  | pairLetter (high : Nat)
deriving Repr, DecidableEq

/-- The character that a one-letter escape stands for. -/
def shortEscape? (c : Char) : Option Char :=
  match c with
  | '"' => some '"'
  | '\\' => some '\\'
  | '/' => some '/'
  | 'b' => some '\x08'
  | 'f' => some '\x0c'
  | 'n' => some '\n'
  | 'r' => some '\r'
  | 't' => some '\t'
  | _ => none

/-- The value of a hexadecimal digit of either case. -/
def hexDigit? (c : Char) : Option Nat :=
  if '0' ≤ c ∧ c ≤ '9' then some (c.toNat - '0'.toNat)
  else if 'a' ≤ c ∧ c ≤ 'f' then some (c.toNat - 'a'.toNat + 10)
  else if 'A' ≤ c ∧ c ≤ 'F' then some (c.toNat - 'A'.toNat + 10)
  else none

/-- Whether a code unit is the first half of a surrogate pair. -/
def isHigh (n : Nat) : Bool := 0xD800 ≤ n && n ≤ 0xDBFF

/-- Whether a code unit is the second half of a surrogate pair. -/
def isLow (n : Nat) : Bool := 0xDC00 ≤ n && n ≤ 0xDFFF

/-- Puts a character in front of what was read. -/
def consChar (c : Char) : Option (List Char × List Char) → Option (List Char × List Char) :=
  Option.map fun r => (c :: r.1, r.2)

/-- The characters of a string up to its closing quote, and the text after it. -/
def readString : StringState → List Char → Option (List Char × List Char)
  | _, [] => none
  | .plain, c :: rest =>
    if c = '"' then some ([], rest)
    else if c = '\\' then readString .escape rest
    else if c < ' ' then none
    else consChar c (readString .plain rest)
  | .escape, c :: rest =>
    if c = 'u' then readString (.unit none 4 0) rest
    else
      match shortEscape? c with
      | some d => consChar d (readString .plain rest)
      | none => none
  | .unit high missing value, c :: rest =>
    match hexDigit? c with
    | none => none
    | some d =>
      let next := value * 16 + d
      if 1 < missing then readString (.unit high (missing - 1) next) rest
      else
        match high with
        | none =>
          if isHigh next then readString (.pairSlash next) rest
          else if isLow next then none
          else consChar (Char.ofNat next) (readString .plain rest)
        | some h =>
          if isLow next then
            consChar (Char.ofNat (0x10000 + (h - 0xD800) * 0x400 + (next - 0xDC00)))
              (readString .plain rest)
          else none
  | .pairSlash high, c :: rest => if c = '\\' then readString (.pairLetter high) rest else none
  | .pairLetter high, c :: rest => if c = 'u' then readString (.unit (some high) 4 0) rest else none

/-- The greatest significand that is kept exactly. -/
def maxSignificand : Nat := UInt64.size - 1

/-- The parts of a number as they are written. -/
structure NumberText where
  negative : Bool
  whole : List Char
  fraction : Option (List Char)
  exponent : Option (Bool × List Char)
deriving Repr, DecidableEq

/-- The digits in front of a text, and the text after them. -/
def splitDigits (cs : List Char) : List Char × List Char :=
  (cs.takeWhile Char.isDigit, cs.dropWhile Char.isDigit)

/-- The digits after the point, if there is a point. -/
def readFraction : List Char → Option (Option (List Char) × List Char)
  | '.' :: rest =>
    match splitDigits rest with
    | ([], _) => none
    | (ds, rest) => some (some ds, rest)
  | cs => some (none, cs)

/-- The sign and the digits of the exponent, if there is one. -/
def readExponent : List Char → Option (Option (Bool × List Char) × List Char)
  | c :: rest =>
    if c = 'e' ∨ c = 'E' then
      let (negative, rest) :=
        match rest with
        | '-' :: r => (true, r)
        | '+' :: r => (false, r)
        | r => (false, r)
      match splitDigits rest with
      | ([], _) => none
      | (ds, rest) => some (some (negative, ds), rest)
    else some (none, c :: rest)
  | [] => some (none, [])

/-- The parts of the number in front of a text. The whole part has no needless zero. -/
def readNumberText (cs : List Char) : Option (NumberText × List Char) :=
  let (negative, cs) :=
    match cs with
    | '-' :: r => (true, r)
    | r => (false, r)
  match splitDigits cs with
  | ([], _) => none
  | ('0' :: _ :: _, _) => none
  | (whole, rest) => do
    let (fraction, rest) ← readFraction rest
    let (exponent, rest) ← readExponent rest
    return (⟨negative, whole, fraction, exponent⟩, rest)

/-- The value of the leading digits that keep the significand within its bound, and how many
digits are left out. -/
def significand : Nat → List Char → Nat × Nat
  | value, [] => (value, 0)
  | value, c :: rest =>
    let next := value * 10 + (c.toNat - '0'.toNat)
    if maxSignificand < next then (value, rest.length + 1) else significand next rest

/-- The double `f * 10 ^ exponent`, by one multiplication or division where the power of ten is a
double, and by repeated division where it is too small to be one; `none` where the result is too
large. -/
def scale (f : Float) (exponent : Int) : Option Float :=
  if exponent.natAbs ≤ 308 then
    let power := Float.ofScientific 1 false exponent.natAbs
    if 0 ≤ exponent then
      let product := f * power
      if product.isInf then none else some product
    else some (f / power)
  else if f == 0 then some f
  else if 0 ≤ exponent then none
  else scale (f / 1e308) (exponent + 308)
termination_by exponent.natAbs

/-- The greatest exponent that is kept exactly. -/
def maxExponent : Nat := 2147483647

/-- The greatest magnitude of a negative integer. -/
def maxNegative : Nat := 9223372036854775808

/-- The value of the digits of an exponent, unless it is too large to matter. -/
def exponentValue (value : Nat) : List Char → Option Nat
  | [] => some value
  | c :: rest =>
    let next := value * 10 + (c.toNat - '0'.toNat)
    if maxExponent < next then none else exponentValue next rest

/-- The double with the given sign. -/
def signed (negative : Bool) (f : Float) : Float :=
  if negative then -f else f

/-- The double that a number with a point, an exponent or too many digits stands for. Digits that
the significand has no room for count with the exponent before the point and not at all after
it. -/
def NumberText.toFloat (t : NumberText) : Option Float :=
  let (whole, dropped) := significand 0 t.whole
  let digits := t.fraction.getD []
  let (value, unused) := significand whole digits
  let start : Int := dropped - (digits.length - unused : Nat)
  let f := value.toUInt64.toFloat
  match t.exponent with
  | none => (scale f start).map (signed t.negative)
  | some (negative, ds) =>
    match exponentValue 0 ds with
    | none => if value ≠ 0 ∧ ¬ negative then none else some (signed t.negative 0)
    | some exponent =>
      let total := if negative then start - exponent else start + exponent
      (scale f total).map (signed t.negative)

/-- The value of a number: an integer if it is written as one and fits 64 bits. -/
def NumberText.value (t : NumberText) : Option Json :=
  match t.fraction, t.exponent, significand 0 t.whole with
  | none, none, (n, 0) =>
    if ¬ t.negative then some (.int n)
    else if n = 0 ∨ maxNegative < n then some (.float (-n.toUInt64.toFloat))
    else some (.int (-n))
  | _, _, _ => t.toFloat.map .float

/-- The number in front of a text. -/
def readNumber (cs : List Char) : Option (Json × List Char) := do
  let (t, rest) ← readNumberText cs
  let v ← t.value
  return (v, rest)

mutual
/-- The value in front of a text, with at most `depth` arrays and objects inside one another; the
fuel bounds the number of steps. -/
def readValue : (fuel depth : Nat) → List Char → Option (Json × List Char)
  | 0, _, _ => none
  | fuel + 1, depth, cs =>
    match skipGap cs with
    | 'n' :: 'u' :: 'l' :: 'l' :: rest => some (.null, rest)
    | 't' :: 'r' :: 'u' :: 'e' :: rest => some (.bool true, rest)
    | 'f' :: 'a' :: 'l' :: 's' :: 'e' :: rest => some (.bool false, rest)
    | '"' :: rest => (readString .plain rest).map fun r => (.str (String.ofList r.1), r.2)
    | '[' :: rest =>
      match depth with
      | 0 => none
      | depth + 1 =>
        match skipGap rest with
        | ']' :: rest => some (.arr [], rest)
        | rest => (readItems fuel depth rest).map fun r => (.arr r.1, r.2)
    | '\x7b' :: rest =>
      match depth with
      | 0 => none
      | depth + 1 =>
        match skipGap rest with
        | '\x7d' :: rest => some (.obj [], rest)
        | rest => (readMembers fuel depth rest).map fun r => (.obj (Dictionary.ofList r.1), r.2)
    | rest => readNumber rest

/-- The items of an array up to its closing bracket. -/
def readItems : (fuel depth : Nat) → List Char → Option (List Json × List Char)
  | 0, _, _ => none
  | fuel + 1, depth, cs =>
    match readValue fuel depth cs with
    | none => none
    | some (v, rest) =>
      match skipGap rest with
      | ',' :: rest => (readItems fuel depth rest).map fun r => (v :: r.1, r.2)
      | ']' :: rest => some ([v], rest)
      | _ => none

/-- The members of an object up to its closing brace, in the order in which they are written. -/
def readMembers : (fuel depth : Nat) → List Char → Option (List (String × Json) × List Char)
  | 0, _, _ => none
  | fuel + 1, depth, cs =>
    match skipGap cs with
    | '"' :: rest =>
      match readString .plain rest with
      | none => none
      | some (key, rest) =>
        match skipGap rest with
        | ':' :: rest =>
          match readValue fuel depth rest with
          | none => none
          | some (v, rest) =>
            match skipGap rest with
            | ',' :: rest =>
              (readMembers fuel depth rest).map fun r => ((String.ofList key, v) :: r.1, r.2)
            | '\x7d' :: rest => some ([(String.ofList key, v)], rest)
            | _ => none
        | _ => none
    | _ => none
end

/-- The value that a text holds, with nothing but blanks around it and at most `depth` arrays and
objects inside one another. -/
def parseWithin (depth : Nat) (cs : List Char) : Option Json :=
  match readValue (2 * cs.length + 2) depth cs with
  | some (v, rest) => if (skipGap rest).isEmpty then some v else none
  | none => none

/-- The value that a text holds, with nothing but blanks around it. -/
def parseChars (cs : List Char) : Option Json :=
  parseWithin maxDepth cs

/-- The value that a text holds. -/
def parse? (s : String) : Option Json :=
  parseChars s.toList

/-- The value that well-formed UTF-8 holds. -/
def ofBytes? (bs : Bytes) : Option Json :=
  (Utf8.decode? bs).bind parse?

end ChangeFeed.Json
