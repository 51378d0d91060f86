import ChangeFeed.Event
import ChangeFeed.Journal
import Mathlib.Data.List.Infix

/-!
# Taking tagged text out again

User data is logged between an opening and a closing tag, so that a later stage can take it out:
`untag` deletes what stands between an opening tag and the next closing tag, with the tags. Text
between tags is taken out as a whole unless it holds a closing tag itself; what is left of a
document id is its `leftover`.
-/

namespace ChangeFeed

namespace Text

/-- The tag before user data. -/
def openingTag : List Char := ['<', 'u', 'd', '>']

/-- The tag after user data. -/
def closingTag : List Char := ['<', '/', 'u', 'd', '>']

/-- The number of characters up to the end of the next closing tag, if there is one. -/
def toClosing : List Char → Option Nat
  | [] => none
  | c :: rest =>
    if closingTag.isPrefixOf (c :: rest) then some closingTag.length
    else (toClosing rest).map (· + 1)

/-- Leaves out the given number of characters, and then every tagged span. An opening tag that is
never closed stays. -/
def untagFrom : Nat → List Char → List Char
  | _, [] => []
  | skip + 1, _ :: rest => untagFrom skip rest
  | 0, c :: rest =>
    if openingTag.isPrefixOf (c :: rest) then
      match toClosing (rest.drop 3) with
      | some n => untagFrom (3 + n) rest
      | none => c :: rest
    else c :: untagFrom 0 rest

/-- Leaves out every tagged span. -/
def untag (text : List Char) : List Char :=
  untagFrom 0 text

variable {text rest : List Char}

/-- Leaving characters out is dropping them. -/
lemma untagFrom_eq (n : Nat) (text : List Char) : untagFrom n text = untag (text.drop n) := by
  induction text generalizing n with
  | nil => cases n <;> rfl
  | cons c rest ih =>
    cases n with
    | zero => rfl
    | succ n => exact ih n

/-- A closing tag that stands before others does not begin within a text without one. -/
lemma not_prefix_of_not_infix {c : Char} (h : ¬ closingTag <:+: c :: text) :
    ¬ closingTag <+: c :: text ++ (closingTag ++ rest) := by
  intro hp
  have hq : c :: text <+: c :: text ++ (closingTag ++ rest) := List.prefix_append _ _
  obtain hin | hin := List.prefix_or_prefix_of_prefix hp hq
  · exact h hin.isInfix
  · -- the text is a beginning of the tag, so that the tag would begin again within itself
    obtain ⟨more, hm⟩ := hin
    have hmore : more <+: closingTag ++ rest := by
      apply (List.prefix_append_right_inj (c :: text)).1
      rwa [hm]
    have htail : text ++ more = ['/', 'u', 'd', '>'] := (List.cons.inj hm).2
    cases more with
    | nil =>
      rw [List.append_nil] at hm
      exact h (hm ▸ List.infix_refl _)
    | cons x more =>
      obtain rfl : x = '<' := (List.cons_prefix_cons.1 hmore).1
      have hx : '<' ∈ text ++ '<' :: more := List.mem_append_right _ List.mem_cons_self
      rw [htail] at hx
      exact absurd hx (by decide)

/-- The next closing tag is the one that was put after the text, unless the text holds one. -/
lemma toClosing_append (h : ¬ closingTag <:+: text) :
    toClosing (text ++ (closingTag ++ rest)) = some (text.length + closingTag.length) := by
  induction text with
  | nil => rfl
  | cons c text ih =>
    have hp : closingTag.isPrefixOf (c :: text ++ (closingTag ++ rest)) = false := by
      rw [Bool.eq_false_iff, ne_eq, List.isPrefixOf_iff_prefix]
      exact not_prefix_of_not_infix h
    have ht : ¬ closingTag <:+: text := fun hi => h (hi.trans (List.suffix_cons c text).isInfix)
    rw [List.cons_append] at hp ⊢
    rw [toClosing, hp, ih ht]
    simp [Nat.add_right_comm]

/-- Tagged text is left out, unless it holds a closing tag. -/
lemma untag_tagged (h : ¬ closingTag <:+: text) (rest : List Char) :
    untag (openingTag ++ (text ++ (closingTag ++ rest))) = untag rest := by
  have hc : toClosing ((['u', 'd', '>'] ++ (text ++ (closingTag ++ rest))).drop 3) =
      some (text.length + closingTag.length) := toClosing_append h
  have hp : openingTag.isPrefixOf ('<' :: (['u', 'd', '>'] ++ (text ++ (closingTag ++ rest)))) :=
    rfl
  have hd : (['u', 'd', '>'] ++ (text ++ (closingTag ++ rest))).drop
      (3 + (text.length + closingTag.length)) = rest := by
    rw [← List.append_assoc text, ← List.append_assoc]
    exact List.drop_left' (by simp; omega)
  show untagFrom 0 ('<' :: (['u', 'd', '>'] ++ (text ++ (closingTag ++ rest)))) = untag rest
  rw [untagFrom, if_pos hp, hc]
  dsimp only
  rw [untagFrom_eq, hd]

end Text

/-- What is left of a document id that is logged between tags. -/
def leftover (key : Bytes) : List Char :=
  Text.untag ("<ud>" ++ Utf8.decodeLossy key ++ "</ud>").toList

/-- The text of a document id, between tags. -/
lemma toList_tagged (text : String) :
    ("<ud>" ++ text ++ "</ud>").toList = Text.openingTag ++ (text.toList ++ Text.closingTag) := by
  simp [Text.openingTag, Text.closingTag]

/-- Nothing is left of a document id whose text holds no closing tag. -/
lemma leftover_eq_nil {key : Bytes} (h : ¬ Text.closingTag <:+: (Utf8.decodeLossy key).toList) :
    leftover key = [] := by
  rw [leftover, toList_tagged, ← List.append_nil Text.closingTag]
  exact Text.untag_tagged h []

/-- Of a document id whose text holds a closing tag, what follows the first one is left, with the
tag that was put after the text, but for what stands between tags in turn. -/
lemma leftover_of_closing {key : Bytes} {before rest : List Char}
    (ht : (Utf8.decodeLossy key).toList = before ++ (Text.closingTag ++ rest))
    (h : ¬ Text.closingTag <:+: before) :
    leftover key = Text.untag (rest ++ Text.closingTag) := by
  rw [leftover, toList_tagged, ht, List.append_assoc, List.append_assoc]
  exact Text.untag_tagged h _

/-- The value without tagged spans. -/
def FieldValue.untagged : FieldValue → FieldValue
  | number n => number n
  | text s => text (String.ofList (Text.untag s.toList))

/-- The line as a log processor keeps it, which takes out tagged spans; lines for debugging are not
emitted. -/
def LogLine.stripped? (line : LogLine) : Option LogLine :=
  if line.severity = .debug then none
  else some { line with fields := line.fields.map fun f => (f.1, f.2.untagged) }

/-- The line of an entry as it is kept, if it is one of a line. -/
def Entry.stripped? : Entry → Option LogLine
  | logged line => line.stripped?
  | _ => none

/-- The lines as a log processor keeps them. -/
def strippedLines (journal : List Entry) : List LogLine :=
  journal.filterMap Entry.stripped?

/-- Above the lowest level a document id stands between tags. -/
lemma RedactionLevel.redact_of_ne_none {level : RedactionLevel} (hl : level ≠ .none)
    (text : String) : level.redact text = "<ud>" ++ text ++ "</ud>" := by
  cases level with
  | none => exact absurd rfl hl
  | part | full => rfl

end ChangeFeed
