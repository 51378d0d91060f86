/-!
# Text without terminal control

Messages are shown as plain text: control characters other than white space, and the control
sequences by which a terminal would be steered, are left out. The text is read by a machine that
looks at one character at a time. A control sequence is told apart by its ASCII characters; other
characters within it are left out too. A control string lasts until it is cancelled or terminated,
and white space ends every sequence that is no control string.
-/

namespace ChangeFeed.Text

/-- Whether the text is inside a control sequence, and where in it. A device control string has a
header of its own in front of its data; the data of every control string but a command is alike. -/
inductive Control where
  | ground
  | escape
  | intermediate
  | parameters
  | command
  | device
  | deviceParameters
  | deviceIntermediate
  | data
deriving Repr, DecidableEq

/-- Control characters that are white space. -/
def isLayout (c : Char) : Bool :=
  c == '\t' || c == '\n' || c == '\x0c' || c == '\r'

/-- The octet that terminates the data of a control string, wherever it occurs. -/
def stringTerminator : UInt8 := 0x9C

/-- Whether the octets of a character contain the terminator of a control string. -/
def terminates (c : Char) : Bool :=
  (String.utf8EncodeChar c).contains stringTerminator

/-- Whether white space is shown, and ends what the text is inside of. -/
def Control.showsLayout : Control → Bool
  | .ground | .escape | .intermediate | .parameters => true
  | .command | .device | .deviceParameters | .deviceIntermediate | .data => false

/-- The state after a printable ASCII character that follows the escape character. -/
def Control.ofEscaped (c : Char) : Control :=
  if c ≤ '/' then .intermediate
  else if c = '[' then .parameters
  else if c = ']' then .command
  else if c = 'P' then .device
  else if c = 'X' ∨ c = '^' ∨ c = '_' then .data
  else .ground

/-- The state after a printable ASCII character. -/
def Control.afterPrintable : Control → Char → Control
  | .ground, _ => .ground
  | .escape, c => ofEscaped c
  | .intermediate, c => if c ≤ '/' then .intermediate else .ground
  | .parameters, c => if c ≤ '?' then .parameters else .ground
  | .command, _ => .command
  | .device, c =>
    if c ≤ '/' then .deviceIntermediate else if c ≤ '?' then .deviceParameters else .data
  | .deviceParameters, c =>
    if c ≤ '/' then .deviceIntermediate else if c ≤ ';' then .deviceParameters else .data
  | .deviceIntermediate, c => if c ≤ '/' then .deviceIntermediate else .data
  | .data, _ => .data

/-- The state after a character, and whether the character is shown. -/
def Control.step (state : Control) (c : Char) : Control × Bool :=
  if c = '\x1b' then (.escape, false)
  else if c = '\x18' ∨ c = '\x1a' then (.ground, false)
  else if '\x7f' < c then
    (if state = .data ∧ terminates c then .ground else state, state = .ground)
  else if c < ' ' ∨ c = '\x7f' then
    if isLayout c ∧ state.showsLayout then (.ground, true)
    else (if state = .command ∧ c = '\x07' then .ground else state, false)
  else (state.afterPrintable c, state = .ground)

/-- The characters that are shown. -/
def visible : Control → List Char → List Char
  | _, [] => []
  | state, c :: rest =>
    let (next, shown) := state.step c
    if shown then c :: visible next rest else visible next rest

/-- The first line of a text, without the line break that ends it. -/
def firstLine : List Char → List Char
  | [] => []
  | '\n' :: _ => []
  | '\r' :: '\n' :: _ => []
  | c :: rest => c :: firstLine rest

end ChangeFeed.Text
