import ChangeFeed.Proofs.Hub.Path
import ChangeFeed.Proofs.Text.Tags
import Mathlib.Data.List.Forall2
import Mathlib.Data.Option.Basic

/-!
# Hubs that differ in user data only

Two events are twins if they agree in everything but the document ids, which are related in a given
way, and the contents. Two hubs are twins if the same waits at them but for twins, and if a log
processor that takes out tagged text keeps the same lines of both. Whatever is done to both hubs
alike leaves them twins, if nothing is logged of document ids that are related but what a log
processor takes out, or leaves alike: that is what `Alike` says of the relation.
-/

namespace ChangeFeed

/-- A log processor leaves the same of document ids that are related. -/
def Alike (R : Bytes → Bytes → Prop) : Prop :=
  ∀ k l, R k l → leftover k = leftover l

variable {R : Bytes → Bytes → Prop}

/-- The messages agree in everything but user data. -/
structure Message.Twin (R : Bytes → Bytes → Prop) (m n : Message) : Prop where
  frame : n = { m with key := n.key, content := n.content }
  key : R m.key n.key

/-- The hooks do the same, but for events that are related. -/
inductive Hook.Related {ε : Type} (S : ε → ε → Prop) : Hook ε → Hook ε → Prop where
  | stop : Related S .stop .stop
  | report {fault} : Related S (.report fault) (.report fault)
  | enqueue {a b} :
    S a b →
    Related S (.enqueue a) (.enqueue b)

/-- The events agree in everything but user data, and so do those that they bring about. -/
inductive Event.Twin (R : Bytes → Bytes → Prop) : Event → Event → Prop where
  | mk {m n epoch window hooks hooks'} :
    m.Twin R n →
    List.Forall₂ (Hook.Related (Twin R)) hooks hooks' →
    Twin R ⟨m, epoch, window, hooks⟩ ⟨n, epoch, window, hooks'⟩

/-- The moves are the same, but for twins, and but for what a log processor takes out of lines. -/
inductive Move.Twin (R : Bytes → Bytes → Prop) : Move → Move → Prop where
  | enqueue {a b} :
    a.Twin R b →
    Twin R (.enqueue a) (.enqueue b)
  | report {fault} : Twin R (.report fault) (.report fault)
  | setRunning {running} : Twin R (.setRunning running) (.setRunning running)
  | log {line line'} :
    line.stripped? = line'.stripped? →
    Twin R (.log line) (.log line')
  | letGo {i} : Twin R (.letGo i) (.letGo i)

/-- The same waits in the bridges, but for twins. -/
structure Bridge.Twin (R : Bytes → Bytes → Prop) (b c : Bridge) : Prop where
  events : List.Forall₂ (Event.Twin R) b.events c.events
  fault : b.fault = c.fault

/-- The hubs are in the same state, but for twins; user data is tagged at both, and a log processor
keeps the same lines of both. -/
structure Hub.Twin (R : Bytes → Bytes → Prop) (h k : Hub) : Prop where
  bridge : Option.Rel (Bridge.Twin R) h.bridge k.bridge
  running : h.running = k.running
  redaction : h.redaction = k.redaction
  tagged : h.redaction ≠ .none
  schedule : List.Forall₂ (List.Forall₂ (Move.Twin R)) h.schedule k.schedule
  handedBack : List.Forall₂ (Event.Twin R) h.handedBack k.handedBack
  lines : strippedLines h.journal = strippedLines k.journal

/-- A line about a message that a log processor leaves alike of twins. -/
def Tagging (R : Bytes → Bytes → Prop) (line : RedactionLevel → Message → ReleaseError → LogLine) :
    Prop :=
  ∀ level m n cause, level ≠ .none → m.Twin R n →
    (line level m cause).stripped? = (line level n cause).stripped?

/-- Lists of the same length are empty both, or none is. -/
lemma isEmpty_eq_isEmpty {α β : Type} {as : List α} {bs : List β} (h : as.length = bs.length) :
    as.isEmpty = bs.isEmpty := by
  rw [Bool.eq_iff_iff, List.isEmpty_iff_length_eq_zero, List.isEmpty_iff_length_eq_zero, h]

/-- Nothing is related to nothing only, and something to something that it is related to. -/
lemma optionRel_cases {α β : Type} {S : α → β → Prop} {a : Option α} {b : Option β}
    (h : Option.Rel S a b) :
    (a = none ∧ b = none) ∨ ∃ x y, a = some x ∧ b = some y ∧ S x y := by
  cases h with
  | none => exact .inl ⟨rfl, rfl⟩
  | some h => exact .inr ⟨_, _, rfl, rfl, h⟩

/-- The lines of a journal are those of its parts. -/
lemma strippedLines_append (as bs : List Entry) :
    strippedLines (as ++ bs) = strippedLines as ++ strippedLines bs :=
  List.filterMap_append

namespace Message.Twin

variable {m n : Message}

/-- Twins can be released or not for the same reason. -/
lemma releaseError?_eq (hm : m.Twin R n) : m.releaseError? = n.releaseError? := by
  rw [hm.frame]
  rfl

/-- Twins have the same buffer. -/
lemma buffer_eq (hm : m.Twin R n) : m.buffer = n.buffer := by
  rw [hm.frame]

/-- Twins are of the same kind. -/
lemma kind_eq (hm : m.Twin R n) : m.kind = n.kind := by
  rw [hm.frame]

/-- The key of a line, as it is kept. -/
lemma redact_untagged (hR : Alike R) (hm : m.Twin R n) {level : RedactionLevel}
    (hl : level ≠ .none) :
    (FieldValue.text (level.redact m.keyText)).untagged =
      (FieldValue.text (level.redact n.keyText)).untagged := by
  have hk := hR _ _ hm.key
  rw [RedactionLevel.redact_of_ne_none hl, RedactionLevel.redact_of_ne_none hl]
  exact congrArg (fun text => FieldValue.text (String.ofList text)) hk

end Message.Twin

/-- The messages of events that are twins are twins. -/
lemma Event.Twin.message {a b : Event} (he : a.Twin R b) : a.message.Twin R b.message := by
  cases he with
  | mk hm _ => exact hm

/-- The hooks of events that are twins are related one by one. -/
lemma Event.Twin.hooks {a b : Event} (he : a.Twin R b) :
    List.Forall₂ (Hook.Related (Event.Twin R)) a.hooks b.hooks := by
  cases he with
  | mk _ hh => exact hh

section

variable (hR : Alike R)

include hR

/-- A line for a release that failed keeps user data between tags. -/
lemma tagging_releaseFailure (what : String) : Tagging R (LogLine.releaseFailure what) := by
  intro level m n cause hl hm
  have hk := hm.redact_untagged hR hl
  have hp : n.partition = m.partition := by rw [hm.frame]
  have hs : n.seqno = m.seqno := by rw [hm.frame]
  rw [LogLine.stripped?, LogLine.stripped?, LogLine.releaseFailure, LogLine.releaseFailure, hp, hs]
  simp [hk]

/-- A line for a release that failed after the conversion did keeps user data between tags. -/
lemma tagging_abandonedFailure : Tagging R LogLine.abandonedFailure := by
  intro level m n cause hl hm
  have hk := hm.redact_untagged hR hl
  rw [LogLine.stripped?, LogLine.stripped?, LogLine.abandonedFailure, LogLine.abandonedFailure]
  simp [hk]

end

namespace Hub.Twin

variable {h k : Hub} {m n : Message} {a b : Event}

/-- Noting something that looks alike. -/
lemma record {x y : Entry} (hh : h.Twin R k) (hx : x.stripped? = y.stripped?) :
    (h.record x).Twin R (k.record y) := by
  refine ⟨hh.bridge, hh.running, hh.redaction, hh.tagged, hh.schedule, hh.handedBack, ?_⟩
  rw [journal_record, journal_record, strippedLines_append, strippedLines_append, hh.lines]
  simp [strippedLines, List.filterMap_cons, hx]

/-- Lines that are the same without user data leave twins. -/
lemma log {line line' : LogLine} (hh : h.Twin R k) (hl : line.stripped? = line'.stripped?) :
    (h.log line).Twin R (k.log line') :=
  hh.record hl

/-- Logging the same line at both. -/
lemma log_same (hh : h.Twin R k) (line : LogLine) : (h.log line).Twin R (k.log line) :=
  hh.log rfl

/-- Setting or clearing the flag leaves twins. -/
lemma setRunning (hh : h.Twin R k) (running : Bool) :
    (h.setRunning running).Twin R (k.setRunning running) :=
  ⟨hh.bridge, rfl, hh.redaction, hh.tagged, hh.schedule, hh.handedBack, hh.lines⟩

/-- Putting twins in the place of the bridges. -/
lemma withBridge {b c : Option Bridge} (hh : h.Twin R k) (hb : Option.Rel (Bridge.Twin R) b c) :
    Hub.Twin R { h with bridge := b } { k with bridge := c } :=
  ⟨hb, hh.running, hh.redaction, hh.tagged, hh.schedule, hh.handedBack, hh.lines⟩

/-- Twins have a bridge alike, or none. -/
lemma bridge_cases (hh : h.Twin R k) :
    (h.bridge = none ∧ k.bridge = none) ∨
      ∃ b c, h.bridge = some b ∧ k.bridge = some c ∧ b.Twin R c :=
  optionRel_cases hh.bridge

/-- Twins have both a bridge or neither. -/
lemma isSome_bridge (hh : h.Twin R k) : h.bridge.isSome = k.bridge.isSome := by
  obtain ⟨hb, hc⟩ | ⟨b, c, hb, hc, -⟩ := hh.bridge_cases
  · rw [hb, hc]
  · rw [hb, hc]
    rfl

/-- Handing over events that are twins has the same answer and leaves twins. -/
lemma enqueue (hh : h.Twin R k) (he : a.Twin R b) (origin : Origin) :
    ∃ taken h' k', h.enqueue origin a = (taken, h') ∧ k.enqueue origin b = (taken, k') ∧
      h'.Twin R k' := by
  unfold Hub.enqueue
  obtain ⟨hb, hc⟩ | ⟨b', c', hb, hc, hbc⟩ := hh.bridge_cases
  · rw [hb, hc]
    exact ⟨false, _, _, rfl, rfl, hh.record rfl⟩
  · have hev : Bridge.Twin R (b'.enqueue a) (c'.enqueue b) :=
      ⟨List.rel_append hbc.events (.cons he .nil), hbc.fault⟩
    rw [hb, hc]
    exact ⟨true, _, _, rfl, rfl, (hh.withBridge (.some hev)).record rfl⟩

/-- Handing over a fault leaves twins. -/
lemma report (hh : h.Twin R k) (origin : Origin) (text : String) :
    (h.report origin text).2.Twin R (k.report origin text).2 := by
  obtain ⟨hb, hc⟩ | ⟨b, c, hb, hc, hbc⟩ := hh.bridge_cases
  · simp only [Hub.report, hb, hc]
    exact hh.record rfl
  · have hev : Bridge.Twin R (b.offer text).2 (c.offer text).2 := by
      refine ⟨?_, ?_⟩
      · rw [Bridge.events_offer, Bridge.events_offer]
        exact hbc.events
      · rw [(Bridge.fault_offer text b).2, (Bridge.fault_offer text c).2, hbc.fault]
    simp only [Hub.report, hb, hc]
    exact (hh.withBridge (.some hev)).record rfl

/-- Twins have both a free slot or neither. -/
lemma slotFree (hh : h.Twin R k) : h.slotFree = k.slotFree := by
  obtain ⟨hb, hc⟩ | ⟨b, c, hb, hc, hbc⟩ := hh.bridge_cases
  · rw [Hub.slotFree, Hub.slotFree, hb, hc]
  · rw [Hub.slotFree, Hub.slotFree, hb, hc]
    exact congrArg Option.isNone hbc.fault

/-- Releasing messages that are twins has the same answer and leaves twins. -/
lemma release (hh : h.Twin R k) (hm : m.Twin R n) :
    ∃ result h' k', h.release m = (result, h') ∧ k.release n = (result, k') ∧ h'.Twin R k' := by
  unfold Hub.release
  rw [hm.buffer_eq, hm.releaseError?_eq]
  cases n.buffer with
  | none => exact ⟨_, _, _, rfl, rfl, hh⟩
  | some b => cases n.releaseError? <;> exact ⟨_, _, _, rfl, rfl, hh.record rfl⟩

/-- A failure is told of alike, because user data is tagged. -/
lemma releaseOrLog {line : RedactionLevel → Message → ReleaseError → LogLine} (hl : Tagging R line)
    (hh : h.Twin R k) (hm : m.Twin R n) :
    (h.releaseOrLog line m).Twin R (k.releaseOrLog line n) := by
  obtain ⟨result, h', k', hp, hq, hr⟩ := hh.release hm
  rw [Hub.releaseOrLog, Hub.releaseOrLog, hp, hq]
  cases result with
  | ok _ => exact hr
  | error cause =>
    have hlevel : h'.redaction = k'.redaction := hr.redaction
    refine hr.log ?_
    rw [← hlevel]
    exact hl _ _ _ _ hr.tagged hm

variable (hR : Alike R)

include hR

/-- Dropping messages that are twins leaves twins. -/
lemma drop (hh : h.Twin R k) (hm : m.Twin R n) : (h.drop m).Twin R (k.drop n) :=
  hh.releaseOrLog (tagging_releaseFailure hR _) hm

/-- Letting go of events that are twins leaves twins. -/
lemma dropAll {events events' : List Event} (he : List.Forall₂ (Event.Twin R) events events')
    (hh : h.Twin R k) : (dropAll events h).Twin R (dropAll events' k) := by
  induction he generalizing h k with
  | nil => exact hh
  | cons he _ ih => exact ih (hh.drop hR he.message)

/-- Closing the bridge leaves twins. -/
lemma closeBridge (hh : h.Twin R k) : h.closeBridge.Twin R k.closeBridge := by
  unfold Hub.closeBridge
  obtain ⟨hb, hc⟩ | ⟨b, c, hb, hc, hbc⟩ := hh.bridge_cases
  · rw [hb, hc]
    exact hh
  · rw [hb, hc]
    exact dropAll hR hbc.events (hh.withBridge .none)

end Hub.Twin

/-- What stands at a place of lists that are related, and what is left without it. -/
lemma related_getElem? {α : Type} {S : α → α → Prop} {as bs : List α} (h : List.Forall₂ S as bs)
    (i : Nat) :
    (as[i]? = none ∧ bs[i]? = none) ∨ ∃ a b, as[i]? = some a ∧ bs[i]? = some b ∧ S a b ∧
      List.Forall₂ S (as.eraseIdx i) (bs.eraseIdx i) := by
  induction h generalizing i with
  | nil => exact .inl ⟨rfl, rfl⟩
  | @cons a b as bs hab h ih =>
    cases i with
    | zero => exact .inr ⟨a, b, rfl, rfl, hab, h⟩
    | succ i =>
      obtain hn | ⟨a', b', ha, hb, hs, hrest⟩ := ih i
      · exact .inl hn
      · exact .inr ⟨a', b', ha, hb, hs, .cons hab hrest⟩

namespace Hub.Twin

variable {h k : Hub} (hR : Alike R)

include hR

/-- Moves that are twins leave twins. -/
lemma move {m n : Move} (hm : m.Twin R n) (hh : h.Twin R k) : (h.move m).Twin R (k.move n) := by
  cases hm with
  | @enqueue a b he =>
    obtain ⟨taken, h', k', hp, hq, hr⟩ := hh.enqueue he .producer
    simp only [Hub.move, hp, hq]
    cases taken with
    | true => exact hr
    | false =>
      exact ⟨hr.bridge, hr.running, hr.redaction, hr.tagged, hr.schedule,
        List.rel_append hr.handedBack (.cons he .nil), hr.lines⟩
  | @report fault => exact hh.report .producer fault
  | @setRunning running => exact hh.setRunning running
  | log hl => exact hh.log hl
  | @letGo i =>
    simp only [Hub.move]
    obtain ⟨ha, hb⟩ | ⟨a, b, ha, hb, hab, hrest⟩ := related_getElem? hh.handedBack i
    · rw [ha, hb]
      exact hh
    · have hg : Hub.Twin R { h with handedBack := h.handedBack.eraseIdx i }
          { k with handedBack := k.handedBack.eraseIdx i } :=
        ⟨hh.bridge, hh.running, hh.redaction, hh.tagged, hh.schedule, hrest, hh.lines⟩
      rw [ha, hb]
      exact hg.drop hR hab.message

/-- Moves that are twins one by one leave twins. -/
lemma moves {ms ns : List Move} (hm : List.Forall₂ (Move.Twin R) ms ns) (hh : h.Twin R k) :
    (moves ms h).Twin R (moves ns k) := by
  induction hm generalizing h k with
  | nil => exact hh
  | cons hm _ ih => exact ih (hh.move hR hm)

/-- What others do meanwhile leaves twins. -/
lemma yield (hh : h.Twin R k) : h.yield.Twin R k.yield := by
  have hs := hh.schedule
  unfold Hub.yield
  cases hh' : h.schedule with
  | nil =>
    rw [hh', List.forall₂_nil_left_iff] at hs
    rw [hs]
    exact hh
  | cons batch rest =>
    rw [hh', List.forall₂_cons_left_iff] at hs
    obtain ⟨batch', rest', hbatch, hrest, hk⟩ := hs
    have hg : Hub.Twin R { h with schedule := rest } { k with schedule := rest' } :=
      ⟨hh.bridge, hh.running, hh.redaction, hh.tagged, hrest, hh.handedBack, hh.lines⟩
    rw [hk]
    exact hg.moves hR hbatch

/-- Reading the flag has the same answer and leaves twins. -/
lemma readFlag (hh : h.Twin R k) :
    ∃ running h' k', h.readFlag = (running, h') ∧ k.readFlag = (running, k') ∧ h'.Twin R k' := by
  have hy := hh.yield hR
  refine ⟨h.yield.running, _, _, rfl, ?_, hy.record rfl⟩
  rw [hy.running]
  rfl

/-- Nothing is taken from the bridges, or twins are. -/
lemma dequeue (hh : h.Twin R k) :
    (∃ h' k', h.dequeue = (none, h') ∧ k.dequeue = (none, k') ∧ h'.Twin R k') ∨
      ∃ a b h' k', h.dequeue = (some a, h') ∧ k.dequeue = (some b, k') ∧
        a.Twin R b ∧ h'.Twin R k' := by
  have hy := hh.yield hR
  simp only [Hub.dequeue]
  obtain ⟨hb, hc⟩ | ⟨b, c, hb, hc, hev, hfault⟩ := hy.bridge_cases
  · rw [hb, hc]
    exact .inl ⟨_, _, rfl, rfl, hy.record rfl⟩
  · obtain ⟨events, fault⟩ := b
    obtain ⟨events', fault'⟩ := c
    rw [hb, hc]
    cases hev with
    | nil => exact .inl ⟨_, _, rfl, rfl, hy.record rfl⟩
    | cons he hrest =>
      have hg := hy.withBridge (.some (.mk (b := ⟨_, fault⟩) (c := ⟨_, fault'⟩) hrest hfault))
      exact .inr ⟨_, _, _, _, rfl, rfl, he, hg.record rfl⟩

/-- Taking a fault has the same answer and leaves twins. -/
lemma takeFault (hh : h.Twin R k) :
    ∃ fault h' k', h.takeFault = (fault, h') ∧ k.takeFault = (fault, k') ∧ h'.Twin R k' := by
  have hy := hh.yield hR
  simp only [Hub.takeFault]
  obtain ⟨hb, hc⟩ | ⟨b, c, hb, hc, hev, hfault⟩ := hy.bridge_cases
  · rw [hb, hc]
    exact ⟨none, _, _, rfl, rfl, hy⟩
  · have hg := hy.withBridge (.some (.mk (b := ⟨_, none⟩) (c := ⟨_, none⟩) hev rfl))
    simp only [hb, hc, Bridge.takeFault, hfault]
    cases c.fault with
    | none => exact ⟨none, _, _, rfl, rfl, hg⟩
    | some text => exact ⟨some text, _, _, rfl, rfl, hg.record rfl⟩

omit hR in
/-- Noting that events that are twins were taken leaves twins. -/
lemma recordDequeued {events events' : List Event}
    (he : List.Forall₂ (Event.Twin R) events events') (hh : h.Twin R k) :
    (recordDequeued events h).Twin R (recordDequeued events' k) := by
  induction he generalizing h k with
  | nil => exact hh
  | cons _ _ ih => exact ih (hh.record rfl)

/-- Draining the bridge gives events that are twins and leaves twins. -/
lemma drain (hh : h.Twin R k) :
    ∃ as bs h' k', h.drain = (as, h') ∧ k.drain = (bs, k') ∧
      List.Forall₂ (Event.Twin R) as bs ∧ h'.Twin R k' := by
  have hy := hh.yield hR
  simp only [Hub.drain]
  obtain ⟨hb, hc⟩ | ⟨b, c, hb, hc, hbc⟩ := hy.bridge_cases
  · rw [hb, hc]
    exact ⟨_, _, _, _, rfl, rfl, .nil, hy⟩
  · rw [hb, hc]
    exact ⟨_, _, _, _, rfl, rfl, hbc.events,
      recordDequeued hbc.events (hy.withBridge (.some ⟨.nil, hbc.fault⟩))⟩

/-- Hooks that are related leave twins. -/
lemma runHook {hook hook' : Hook Event} (hk : hook.Related (Event.Twin R) hook') (hh : h.Twin R k) :
    (h.runHook hook).Twin R (k.runHook hook') := by
  cases hk with
  | stop => exact hh.setRunning false
  | @report fault => exact hh.report .hook fault
  | @enqueue a b he =>
    obtain ⟨taken, h', k', hp, hq, hr⟩ := hh.enqueue he .hook
    simp only [Hub.runHook, hp, hq]
    cases taken with
    | true => exact hr
    | false => exact hr.drop hR he.message

/-- Hooks that are related one by one leave twins. -/
lemma runHooks {hooks hooks' : List (Hook Event)}
    (hk : List.Forall₂ (Hook.Related (Event.Twin R)) hooks hooks') (hh : h.Twin R k) :
    (runHooks hooks h).Twin R (runHooks hooks' k) := by
  induction hk generalizing h k with
  | nil => exact hh
  | cons hk _ ih => exact ih ((hh.yield hR).runHook hR hk)

/-- Acknowledging events that are twins leaves twins. -/
lemma acknowledge {a b : Event} (he : a.Twin R b) (hh : h.Twin R k) :
    (h.acknowledge a).Twin R (k.acknowledge b) :=
  runHooks hR he.hooks ((hh.yield hR).record rfl)

end Hub.Twin

end ChangeFeed
