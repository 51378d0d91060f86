import ChangeFeed.Proofs.Feed.Twin

/-!
# What a log tells of user data

Two histories that differ in user data only are told apart by their log lines, as a log processor
keeps them that takes out tagged text, exactly if the document ids of some two events are told apart
by what is left of them between tags. Nothing is left of a document id whose text holds no closing
tag. If it holds one, the tags do not tell where the document id ends, and what follows the closing
tag is kept.
-/

namespace ChangeFeed

variable {ρ : Type} {R : Bytes → Bytes → Prop} {T : ρ → ρ → Prop}

/-- The same is there but for user data. -/
inductive Place.Twin (R : Bytes → Bytes → Prop) (T : ρ → ρ → Prop) : Place ρ → Place ρ → Prop where
  | feed {f g} :
    f.Twin R T g →
    Twin R T (.feed f) (.feed g)
  | bridge {h k} :
    h.Twin R k →
    Twin R T (.bridge h) (.bridge k)

/-- The calls are the same but for user data. -/
inductive Call.Twin (R : Bytes → Bytes → Prop) : Call → Call → Prop where
  | start {properties} :
    Tags properties →
    Twin R (.start properties) (.start properties)
  | poll : Twin R .poll .poll
  | convert {a b} :
    a.Twin R b →
    Twin R (.convert a) (.convert b)
  | stop : Twin R .stop .stop
  | signal : Twin R .signal .signal
  | others {ms ns} :
    List.Forall₂ (Move.Twin R) ms ns →
    Twin R (.others ms) (.others ns)
  | letGo : Twin R .letGo .letGo

namespace World

/-- No log processor that takes out tagged text can tell runs apart that differ in user data only,
the document ids being related. -/
def Indistinguishable (R : Bytes → Bytes → Prop) : Prop :=
  ∀ (ρ : Type) [Reader ρ] (T : ρ → ρ → Prop), ActAlike R T →
    ∀ (w v : World ρ) (calls calls' : List Call), w.place.Twin R T v.place →
      List.Forall₂ (Call.Twin R) calls calls' →
      strippedLines (w.run calls).hub.journal = strippedLines (v.run calls').hub.journal

section

variable [Reader ρ] {w v : World ρ} {c d : Call} (hR : Alike R) (hT : ActAlike R T)

include hR hT

/-- A call leaves twins twins. -/
lemma twin_step (hw : w.place.Twin R T v.place) (hc : c.Twin R d) :
    (w.step c).place.Twin R T (v.step d).place := by
  obtain ⟨place, converted⟩ := w
  obtain ⟨place', converted'⟩ := v
  cases hw with
  | feed hf =>
    cases hc with
    | start ht => exact .feed (hf.start hR ht)
    | poll => exact .feed (hf.poll hR)
    | convert he => exact .feed (hf.convert hR he)
    | stop => exact .feed (hf.stop hR hT)
    | signal => exact .feed (hf.withHub (hf.hub.setRunning false))
    | others hm => exact .feed (hf.withHub (hf.hub.moves hR hm))
    | letGo => exact .bridge (hf.hub.closeBridge hR)
  | bridge hh =>
    cases hc with
    | others hm => exact .bridge (hh.moves hR hm)
    | letGo => exact .bridge (hh.closeBridge hR)
    | start _ | poll | convert _ | stop | signal => exact .bridge hh

/-- Calls that are twins one by one leave twins. -/
lemma twin_run {calls calls' : List Call} (hw : w.place.Twin R T v.place)
    (hc : List.Forall₂ (Call.Twin R) calls calls') :
    (w.run calls).place.Twin R T (v.run calls').place := by
  induction hc generalizing w v with
  | nil => exact hw
  | cons hc _ ih => exact ih (twin_step hR hT hw hc)

end

/-- The hubs of places that are twins are twins. -/
lemma twin_hub {w v : World ρ} (hw : w.place.Twin R T v.place) : w.hub.Twin R v.hub := by
  obtain ⟨place, converted⟩ := w
  obtain ⟨place', converted'⟩ := v
  cases hw with
  | feed hf => exact hf.hub
  | bridge hh => exact hh

/-- Runs cannot be told apart if a log processor leaves the same of related document ids. -/
lemma indistinguishable_of_alike (hR : Alike R) : Indistinguishable R := by
  intro ρ _ T hT w v calls calls' hw hc
  exact (twin_hub (twin_run hR hT hw hc)).lines

open Doubles

/-- An event of a document with the given id, whose buffer cannot be released. -/
def unreleasableOf (key : Bytes) : Event :=
  ⟨{ (eventWith failingBuffer .deletion 0 1).message with key }, 1000, countedWindow, []⟩

/-- A bridge in which that event waits, user data being tagged. -/
def holding (key : Bytes) : World IdleReader :=
  ⟨.bridge { Hub.idle .part with bridge := some ⟨[unreleasableOf key], none⟩ }, []⟩

/-- When the bridge is let go of, one line is kept, with what is left of the document id. -/
lemma strippedLines_holding (key : Bytes) :
    strippedLines ((holding key).run [.letGo]).hub.journal =
      [⟨.warn, "failed to release buffer of dropped message",
        [("error", (FieldValue.text (ReleaseError.message ⟨"simulated release failure"⟩)).untagged),
          ("partition", .number 0), ("by_seqno", .number 1),
          ("key", .text (String.ofList (leftover key)))]⟩] :=
  rfl

/-- Feeds that hold events whose keys are related are twins. -/
lemma twin_holding {k l : Bytes} (h : R k l) :
    (holding k).place.Twin R (fun _ _ => False) (holding l).place := by
  have he : (unreleasableOf k).Twin R (unreleasableOf l) := .mk ⟨rfl, h⟩ .nil
  exact .bridge ⟨.some ⟨.cons he .nil, rfl⟩, rfl, rfl, nofun, .nil, .nil, rfl⟩

/-- Runs can be told apart if a log processor does not leave the same of related document ids. -/
lemma Indistinguishable.alike (hR : Indistinguishable R) : Alike R := by
  intro k l hkl
  have hlines := hR IdleReader (fun _ _ => False) ⟨nofun, nofun⟩ (holding k) (holding l) [.letGo]
    [.letGo] (twin_holding hkl) (.cons .letGo .nil)
  rw [strippedLines_holding, strippedLines_holding] at hlines
  exact String.ofList_injective (by simpa using hlines)

/-- Whether the text of a document id holds a closing tag. -/
def HoldsClosingTag (key : Bytes) : Prop :=
  Text.closingTag <:+: (Utf8.decodeLossy key).toList

/-- Log lines tell of user data what is left of document ids between tags, and nothing else: neither
of contents, nor of document ids whose texts hold no closing tag. -/
theorem redaction_tells_leftovers (R : Bytes → Bytes → Prop) :
    (Indistinguishable R ↔ ∀ k l, R k l → leftover k = leftover l) ∧
      ((∀ k l, R k l → ¬ HoldsClosingTag k ∧ ¬ HoldsClosingTag l) → Indistinguishable R) ∧
      (∀ key, ¬ HoldsClosingTag key → leftover key = []) ∧
      ∀ key before rest, (Utf8.decodeLossy key).toList = before ++ (Text.closingTag ++ rest) →
        ¬ Text.closingTag <:+: before → leftover key = Text.untag (rest ++ Text.closingTag) := by
  refine ⟨⟨Indistinguishable.alike, indistinguishable_of_alike⟩, ?_, ?_, ?_⟩
  · intro hR
    apply indistinguishable_of_alike
    intro k l hkl
    obtain ⟨hk, hl⟩ := hR k l hkl
    rw [leftover_eq_nil hk, leftover_eq_nil hl]
  · intro key hk
    exact leftover_eq_nil hk
  · intro key before rest ht hb
    exact leftover_of_closing ht hb

/-- What follows a closing tag in a document id is kept. -/
theorem redaction_leaks :
    leftover (Utf8.encode "a</ud>SECRET") = "SECRET</ud>".toList ∧
      ¬ Indistinguishable fun _ _ => True := by
  have hleaks : leftover (Utf8.encode "a</ud>SECRET") = "SECRET</ud>".toList := by decide +kernel
  have hclean : leftover (Utf8.encode "b") = [] := by decide +kernel
  refine ⟨hleaks, ?_⟩
  intro hR
  have heq := hR.alike (Utf8.encode "a</ud>SECRET") (Utf8.encode "b") trivial
  rw [hleaks, hclean] at heq
  exact absurd heq (by decide)

end World

end ChangeFeed
