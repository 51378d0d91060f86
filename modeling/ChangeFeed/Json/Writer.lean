import ChangeFeed.Decimal
import ChangeFeed.Json.Basic

/-!
# Writing JSON

The compact text of a value: no blanks, the members of an object in the order of their keys,
every character above the control characters as it is. Doubles are written with the fewest digits
that read back, positionally as long as the first digit is not too far from the point.
-/

namespace ChangeFeed.Json

/-- When a double is written positionally: the least and the greatest exponent of its first digit
for which it is. -/
structure FloatLayout where
  least : Int
  greatest : Int

/-- Positional from `0.00001` up to sixteen digits before the point. -/
def floatLayout : FloatLayout := ⟨-5, 15⟩

/-- The text of the positive decimal. Positional text has a digit on either side of the point;
other text has one digit before the point and a signed exponent. -/
def FloatLayout.write (layout : FloatLayout) (d : Decimal) : List Char :=
  let digits := Nat.toDigits 10 d.digits
  let top : Int := d.exponent + digits.length - 1
  if layout.least ≤ top ∧ top ≤ layout.greatest then
    if top < 0 then
      ['0', '.'] ++ List.replicate (-top - 1).toNat '0' ++ digits
    else if 0 ≤ d.exponent then
      digits ++ List.replicate d.exponent.toNat '0' ++ ['.', '0']
    else
      digits.take (top + 1).toNat ++ '.' :: digits.drop (top + 1).toNat
  else
    let fraction := if digits.length ≤ 1 then [] else '.' :: digits.drop 1
    let sign := if top < 0 then '-' else '+'
    digits.take 1 ++ fraction ++ 'e' :: sign :: Nat.toDigits 10 top.natAbs

/-- The text of a finite double. -/
def writeFloat (x : Float) : List Char :=
  let (negative, interval) := Decimal.ofFloat x
  let magnitude :=
    match interval with
    | none => ['0', '.', '0']
    | some i => floatLayout.write i.shortest
  if negative then '-' :: magnitude else magnitude

/-- The text of an integer. -/
def writeInt (n : Int) : List Char :=
  if n < 0 then '-' :: Nat.toDigits 10 n.natAbs else Nat.toDigits 10 n.natAbs

/-- How a character is written inside a string. -/
def writeChar (c : Char) : List Char :=
  if c = '"' then ['\\', '"']
  else if c = '\\' then ['\\', '\\']
  else if c = '\x08' then ['\\', 'b']
  else if c = '\t' then ['\\', 't']
  else if c = '\n' then ['\\', 'n']
  else if c = '\x0c' then ['\\', 'f']
  else if c = '\r' then ['\\', 'r']
  else if c < ' ' then
    ['\\', 'u', '0', '0', Nat.digitChar (c.toNat / 16), Nat.digitChar (c.toNat % 16)]
  else [c]

/-- A string between double quotes. -/
def writeString (s : String) : List Char :=
  '"' :: s.toList.flatMap writeChar ++ ['"']

mutual
/-- The compact text of a value. -/
def write : Json → List Char
  | .null => ['n', 'u', 'l', 'l']
  | .bool true => ['t', 'r', 'u', 'e']
  | .bool false => ['f', 'a', 'l', 's', 'e']
  | .int n => writeInt n
  | .float x => writeFloat x
  | .str s => writeString s
  | .arr items => '[' :: writeItems items ++ [']']
  | .obj members => '\x7b' :: writeMembers members ++ ['\x7d']

/-- The items of an array, with a comma between two of them. -/
def writeItems : List Json → List Char
  | [] => []
  | [v] => write v
  | v :: rest => write v ++ ',' :: writeItems rest

/-- The members of an object, with a comma between two of them. -/
def writeMembers : List (String × Json) → List Char
  | [] => []
  | [(k, v)] => writeString k ++ ':' :: write v
  | (k, v) :: rest => writeString k ++ ':' :: write v ++ ',' :: writeMembers rest
end

/-- The compact text of a value. -/
def render (v : Json) : String :=
  String.ofList (write v)

end ChangeFeed.Json
