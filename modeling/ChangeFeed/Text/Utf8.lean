/-!
# Octets and UTF-8

Keys and contents of documents are octets. This module encodes text as UTF-8 and reads it back in
two ways: `decode?` refuses ill-formed octets, `decodeLossy` puts U+FFFD in the place of each
maximal ill-formed run. Both are views of one scan, which is a machine that looks at one octet at
a time, and `decode?_eq_some_iff` says when the first succeeds.
-/

namespace ChangeFeed

/-- A sequence of octets. -/
abbrev Bytes := List UInt8

namespace Utf8

/-- The octets of a text. -/
def encode (s : String) : Bytes :=
  s.toList.flatMap String.utf8EncodeChar

/-- What the scan waits for inside a character: how many octets are missing, the range that the
next one must lie in, and the value of the octets read so far. -/
structure Pending where
  missing : Nat
  low : UInt8
  high : UInt8
  value : Nat
deriving Repr, DecidableEq

/-- What an octet means at the start of a character. -/
inductive Lead where
  | ascii (c : Char)
  | opens (pending : Pending)
  | stray
deriving Repr, DecidableEq

/-- The first octet of a character fixes its length and narrows the range of the second octet, so
that neither overlong forms nor surrogates nor values past U+10FFFF are well formed. -/
def lead (b : UInt8) : Lead :=
  if b < 0x80 then .ascii (Char.ofNat b.toNat)
  else if b < 0xC2 then .stray
  else if b < 0xE0 then .opens ⟨1, 0x80, 0xBF, b.toNat - 0xC0⟩
  else if b = 0xE0 then .opens ⟨2, 0xA0, 0xBF, 0⟩
  else if b = 0xED then .opens ⟨2, 0x80, 0x9F, 0xD⟩
  else if b < 0xF0 then .opens ⟨2, 0x80, 0xBF, b.toNat - 0xE0⟩
  else if b = 0xF0 then .opens ⟨3, 0x90, 0xBF, 0⟩
  else if b < 0xF4 then .opens ⟨3, 0x80, 0xBF, b.toNat - 0xF0⟩
  else if b = 0xF4 then .opens ⟨3, 0x80, 0x8F, 4⟩
  else .stray

/-- The characters of a sequence of octets; `none` stands for one maximal ill-formed run. An octet
that cannot go on with the open character ends it and is looked at afresh. -/
def scan : Option Pending → Bytes → List (Option Char)
  | none, [] => []
  | some _, [] => [none]
  | none, b :: rest =>
    match lead b with
    | .ascii c => some c :: scan none rest
    | .opens p => scan (some p) rest
    | .stray => none :: scan none rest
  | some p, b :: rest =>
    if p.low ≤ b ∧ b ≤ p.high then
      let value := p.value * 64 + (b.toNat - 0x80)
      if p.missing ≤ 1 then some (Char.ofNat value) :: scan none rest
      else scan (some ⟨p.missing - 1, 0x80, 0xBF, value⟩) rest
    else
      match lead b with
      | .ascii c => none :: some c :: scan none rest
      | .opens q => none :: scan (some q) rest
      | .stray => none :: none :: scan none rest

/-- The list without its wrappers, unless one of them is empty. -/
def sequence : List (Option Char) → Option (List Char)
  | [] => some []
  | none :: _ => none
  | some c :: rest => (sequence rest).map (c :: ·)

/-- The text of well-formed octets. -/
def decode? (bs : Bytes) : Option String :=
  (sequence (scan none bs)).map String.ofList

/-- The text of any octets, with one U+FFFD for each maximal ill-formed run. -/
def decodeLossy (bs : Bytes) : String :=
  String.ofList ((scan none bs).map (·.getD '\uFFFD'))

/-- A sequence is all there exactly if none of its parts is missing. -/
theorem sequence_eq_some_iff {l : List (Option Char)} {cs : List Char} :
    sequence l = some cs ↔ l = cs.map some := by
  induction l generalizing cs with
  | nil => cases cs <;> simp [sequence]
  | cons o rest ih =>
    cases o with
    | none => cases cs <;> simp [sequence]
    | some c =>
      cases cs with
      | nil => simp [sequence]
      | cons d ds => simp [sequence, Option.map_eq_some_iff, ih]; grind

/-- Octets are well formed exactly when the scan meets no ill-formed run. -/
theorem decode?_eq_some_iff {bs : Bytes} {s : String} :
    decode? bs = some s ↔ scan none bs = s.toList.map some := by
  constructor
  · intro h
    obtain ⟨cs, hcs, rfl⟩ := Option.map_eq_some_iff.1 h
    simpa using sequence_eq_some_iff.1 hcs
  · intro h
    simp [decode?, sequence_eq_some_iff.2 h]

end Utf8

end ChangeFeed
