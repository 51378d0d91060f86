import ChangeFeed.Proofs.Feed.Signal
import ChangeFeed.Proofs.Feed.Twin
import Mathlib.Algebra.Order.Floor.Div

/-!
# Waiting for a reader

A feed that stops waits for its reader, and the reader may be waiting for the feed: it cannot hand
over a fault while the slot is taken. So the feed waits in slices and clears the slot before each of
them. `Waits` says which slices these are, and `Hub.Slots` that the slot is handed faults and they
are taken from it in one order. As the slot is free whenever the reader is waited for, a reader that
`Owes` faults gets rid of one of them in each slice.
-/

namespace ChangeFeed

/-- The span for which a reader was waited for, and its answer. -/
def Entry.joined? : Entry → Option (Span × JoinStatus)
  | joined span status => some (span, status)
  | _ => none

/-- The spans for which a reader was waited for and its answers, in order. -/
def joins (journal : List Entry) : List (Span × JoinStatus) := journal.filterMap Entry.joined?

/-- The fault that the slot took. -/
def Entry.handedOver? : Entry → Option String
  | reported _ fault true => some fault
  | _ => none

/-- The faults that the slot took, in order. -/
def handedOver (journal : List Entry) : List String := journal.filterMap Entry.handedOver?

/-- The line that was logged. -/
def Entry.line? : Entry → Option LogLine
  | logged line => some line
  | _ => none

/-- The lines that were logged, in order. -/
def lines (journal : List Entry) : List LogLine := journal.filterMap Entry.line?

section

variable (as bs : List Entry)

/-- The joins of a journal are those of its parts. -/
lemma joins_append : joins (as ++ bs) = joins as ++ joins bs :=
  List.filterMap_append

/-- The faults that were handed over are those of the parts of a journal. -/
lemma handedOver_append : handedOver (as ++ bs) = handedOver as ++ handedOver bs :=
  List.filterMap_append

/-- The faults that were taken are those of the parts of a journal. -/
lemma faultsTaken_append : faultsTaken (as ++ bs) = faultsTaken as ++ faultsTaken bs :=
  List.filterMap_append

/-- The lines of a journal are those of its parts. -/
lemma lines_append : lines (as ++ bs) = lines as ++ lines bs :=
  List.filterMap_append

end

/-- Only the thread that stops the feed waits for the reader. -/
lemma Entry.ByHolder.joined? {held : List Event} {x : Entry} (hx : x.ByHolder held) :
    x.joined? = none := by
  cases x <;> first | rfl | cases hx

/-- From one hub to the next the slot is handed faults, and they are taken from it, in one order. -/
structure Hub.Slots (h k : Hub) : Prop where
  journal : k.journal = h.journal ++ h.since k
  slot : h.fault?.toList ++ handedOver (h.since k) = faultsTaken (h.since k) ++ k.fault?.toList

namespace Hub.Slots

variable {h k l : Hub}

/-- What is added to the journal accounts for the slot if the slot gives up what it took. -/
lemma of_journal (new : List Entry) (hj : k.journal = h.journal ++ new)
    (hs : h.fault?.toList ++ handedOver new = faultsTaken new ++ k.fault?.toList) : Slots h k := by
  have hnew : h.since k = new := by rw [since, hj, List.drop_left]
  exact ⟨hnew ▸ hj, hnew ▸ hs⟩

/-- Where the slot stays as it is, nothing is noted of it. -/
lemma same (hf : k.fault? = h.fault?) {new : List Entry} (hj : k.journal = h.journal ++ new)
    (hh : handedOver new = []) (ht : faultsTaken new = []) : Slots h k := by
  refine of_journal new hj ?_
  rw [hf, hh, ht, List.append_nil, List.nil_append]

/-- A hub that stays as it is accounts for its slot. -/
lemma refl : Slots h h :=
  same rfl (List.append_nil _).symm rfl rfl

/-- What was noted in two parts was noted in the first and then in the second. -/
lemma since_trans (hk : Slots h k) (kl : Slots k l) : h.since l = h.since k ++ k.since l :=
  Hub.Handles.since_eq hk.journal kl.journal

/-- What accounts for the slot in two parts does so as a whole. -/
lemma trans (hk : Slots h k) (kl : Slots k l) : Slots h l := by
  have hs := hk.since_trans kl
  refine ⟨?_, ?_⟩
  · rw [hs, ← List.append_assoc, ← hk.journal, kl.journal]
  · calc h.fault?.toList ++ handedOver (h.since l)
        = (h.fault?.toList ++ handedOver (h.since k)) ++ handedOver (k.since l) := by
          rw [hs, handedOver_append, List.append_assoc]
      _ = faultsTaken (h.since k) ++ (k.fault?.toList ++ handedOver (k.since l)) := by
          rw [hk.slot, List.append_assoc]
      _ = faultsTaken (h.since l) ++ l.fault?.toList := by
          rw [kl.slot, hs, faultsTaken_append, List.append_assoc]

end Hub.Slots

/-- A fault is handed over just if the slot is free, and then it is in the slot. -/
lemma Hub.slots_report (h : Hub) (origin : Origin) (text : String) :
    h.Slots (h.report origin text).2 := by
  unfold report
  cases hb : h.bridge with
  | none => exact .same (by simp [fault?, hb]) rfl rfl rfl
  | some b =>
    refine .of_journal [.reported origin text (b.offer text).1] rfl ?_
    obtain ⟨events, fault⟩ := b
    cases fault <;> simp only [fault?, hb, Bridge.offer, Option.bind_some] <;> rfl

/-- A note is not about the slot. -/
lemma Entry.fault_of_isNote {entry : Entry} (hn : entry.isNote) :
    handedOver [entry] = [] ∧ faultsTaken [entry] = [] := by
  cases entry <;> first | exact ⟨rfl, rfl⟩ | cases hn

/-- Noting something that is not about faults leaves the slot. -/
lemma Hub.slots_record {entry : Entry} (hn : entry.isNote) (h : Hub) : h.Slots (h.record entry) :=
  .same rfl rfl (Entry.fault_of_isNote hn).1 (Entry.fault_of_isNote hn).2

/-- What one step does to the slot. -/
lemma Step.slots {a : Act} {p q : Point} (st : Step a p q) (ha : a.serves) :
    p.hub.Slots q.hub := by
  cases st with
  | turn _ => exact .same rfl (List.append_nil _).symm rfl rfl
  | setRunning => exact .same rfl (List.append_nil _).symm rfl rfl
  | setRedaction => exact .same rfl (List.append_nil _).symm rfl rfl
  | note hn => exact Hub.slots_record hn _
  | enqueue hb => exact .same (by simp [Hub.fault?, hb]) rfl rfl rfl
  | keep _ => exact .same rfl rfl rfl rfl
  | refuse _ => exact .same rfl rfl rfl rfl
  | report => exact Hub.slots_report _ _ _
  | take hb he => exact .same (by simp [Hub.fault?, hb]) rfl rfl rfl
  | @takeFault h s g b text hb hf =>
    refine .of_journal [.faultTaken text] rfl ?_
    simp [Hub.fault?, hb, hf, handedOver, faultsTaken, Entry.handedOver?, Entry.faultTaken?]
  | reclaim _ => exact .same rfl (List.append_nil _).symm rfl rfl
  | give => cases ha
  | release _ => exact .same rfl rfl rfl rfl
  | forget _ => exact .refl
  | opens _ => cases ha
  | closes _ => cases ha

/-- A run of whoever serves the hub accounts for the slot. -/
lemma Reaches.slots {p q : Point} (h : Reaches Act.serves p q) : p.hub.Slots q.hub :=
  h.preserves (motive := fun r => p.hub.Slots r.hub) (fun ha st hs => hs.trans (st.slots ha)) .refl

namespace Hub

/-- Moves of others account for the slot. -/
lemma slots_moves (ms : List Move) (h : Hub) : h.Slots (moves ms h) :=
  (reaches_moves (s := 0) (g := 0) ms).serves.slots

end Hub

namespace Feed

/-- Discarding goes on until the slot is found free. -/
lemma fault?_discardFaults (h : Hub) : (discardFaults h).fault? = none := by
  fun_induction discardFaults h with
  | case1 h k hk =>
    rcases h.takeFault_cases with ⟨hf, ht⟩ | ⟨b, text, -, -, ht⟩
    · obtain ⟨-, rfl⟩ := Prod.mk.inj (hk.symm.trans ht)
      exact hf
    · cases hk.symm.trans ht
  | case2 h fault k hk l hs ih => exact ih
  | case3 h fault k hk l hs =>
    rcases h.takeFault_cases with ⟨hf, ht⟩ | ⟨b, text, -, -, ht⟩
    · cases hk.symm.trans ht
    · obtain ⟨-, rfl⟩ := Prod.mk.inj (hk.symm.trans ht)
      rfl

/-- The slot is free when the faults in it were discarded. -/
lemma slotFree_discardFaults (h : Hub) : (discardFaults h).slotFree = true := by
  have hf := fault?_discardFaults h
  unfold Hub.slotFree
  cases hb : (discardFaults h).bridge with
  | none => rfl
  | some b => simpa [Hub.fault?, hb, Bridge.slotFree] using hf

/-- Discarding faults accounts for the slot. -/
lemma slots_discardFaults (h : Hub) : h.Slots (discardFaults h) :=
  (reaches_discardFaults (s := 0) (g := 0)).slots

/-- Waiting for a reader accounts for the slot. -/
lemma slots_joinReader {ρ : Type} [Reader ρ] (remaining : Span) (r : ρ) (h : Hub) :
    h.Slots (joinReader remaining r h).2.2 :=
  (reaches_joinReader (s := 0) (g := 0) remaining r).slots

end Feed

/-- The nanoseconds for which a reader was waited for. -/
def waited (calls : List (Span × JoinStatus)) : Nat :=
  (calls.map fun call => call.1.nanoseconds).sum

/-- A wait for a reader: in slices of what remains, until the reader ended or nothing remains. -/
inductive Waits : Span → List (Span × JoinStatus) → JoinStatus → Prop where
  | finished {remaining} :
    Waits remaining [(remaining.min joinSlice, .finished)] .finished
  | expired {remaining status} :
    remaining.isZero →
    Waits remaining [(remaining.min joinSlice, status)] status
  | again {remaining calls status} :
    ¬ remaining.isZero →
    Waits (remaining.minus (remaining.min joinSlice)) calls status →
    Waits remaining ((remaining.min joinSlice, .stillRunning) :: calls) status

namespace Waits

variable {remaining span : Span} {calls before after : List (Span × JoinStatus)}
  {status answer : JoinStatus}

/-- A slice is as long as what remains, and ten milliseconds at most. -/
lemma min_joinSlice (remaining : Span) : (remaining.min joinSlice).nanoseconds =
    min joinSlice.nanoseconds remaining.nanoseconds := by
  unfold Span.min
  split <;> omega

/-- A part that is taken off a quantity leaves at least one part less of it. -/
lemma ceilDiv_sub_min {n part : Nat} (hpart : 0 < part) (hn : 0 < n) :
    (n - min part n) ⌈/⌉ part + 1 ≤ n ⌈/⌉ part := by
  obtain hle | hge := Nat.le_total n part
  · rw [Nat.min_eq_right hle, Nat.sub_self, zero_ceilDiv, Nat.ceilDiv_eq_add_pred_div]
    exact Nat.div_pos (by omega) hpart
  · rw [Nat.min_eq_left hge, Nat.ceilDiv_eq_add_pred_div, Nat.ceilDiv_eq_add_pred_div,
      ← Nat.add_div_right _ hpart]
    apply Nat.div_le_div_right
    omega

/-- Each slice takes its time off what remains, and the last attempt is made when nothing does. -/
lemma length_le (hw : Waits remaining calls status) :
    calls.length ≤ remaining.nanoseconds ⌈/⌉ joinSlice.nanoseconds + 1 := by
  induction hw with
  | finished => exact Nat.le_add_left _ _
  | expired _ => exact Nat.le_add_left _ _
  | @again remaining calls status hz _ ih =>
    have hpos : 0 < remaining.nanoseconds := by
      simpa [Span.isZero, Nat.pos_iff_ne_zero] using hz
    rw [Span.minus, min_joinSlice] at ih
    have hpart : 0 < joinSlice.nanoseconds := by decide
    exact Nat.succ_le_succ (ih.trans (ceilDiv_sub_min hpart hpos))

/-- The last answer of a wait is what the wait comes to. -/
lemma getLast?_eq (hw : Waits remaining calls status) :
    calls.getLast?.map Prod.snd = some status := by
  induction hw with
  | finished => rfl
  | expired _ => rfl
  | @again remaining calls status _ _ ih =>
    cases hl : calls.getLast? with
    | none => simp [hl] at ih
    | some call => simpa [List.getLast?_cons, hl] using ih

/-- In a wait of one slice, that slice is what there is of it. -/
lemma span_eq_of_single
    (hc : [(remaining.min joinSlice, status)] = before ++ (span, answer) :: after) :
    span.nanoseconds = min joinSlice.nanoseconds (remaining.nanoseconds - waited before) ∧
      (after ≠ [] → answer = .stillRunning) := by
  obtain ⟨rfl, hr⟩ | ⟨before, -, hnil⟩ := List.cons_eq_append_iff.1 hc
  · cases hr
    exact ⟨min_joinSlice remaining, fun hne => absurd rfl hne⟩
  · simp at hnil

/-- Every slice is as long as a slice may be, or as long as what remains. -/
lemma span_eq (hw : Waits remaining calls status) (hc : calls = before ++ (span, answer) :: after) :
    span.nanoseconds = min joinSlice.nanoseconds (remaining.nanoseconds - waited before) ∧
      (after ≠ [] → answer = .stillRunning) := by
  induction hw generalizing before with
  | finished => exact span_eq_of_single hc
  | expired _ => exact span_eq_of_single hc
  | @again remaining calls status _ _ ih =>
    obtain ⟨rfl, hr⟩ | ⟨before, rfl, rfl⟩ := List.cons_eq_append_iff.1 hc
    · cases hr
      exact ⟨min_joinSlice remaining, fun _ => rfl⟩
    · obtain ⟨hspan, hlast⟩ := ih rfl
      refine ⟨?_, hlast⟩
      rw [hspan, Span.minus, waited, waited, List.map_cons, List.sum_cons, Nat.sub_sub]

/-- A reader is given up only after the whole time and one more attempt. -/
lemma exhausted (hw : Waits remaining calls status) (hs : status = .stillRunning) :
    ∃ before, calls = before ++ [(⟨0⟩, .stillRunning)] ∧ waited before = remaining.nanoseconds := by
  induction hw with
  | finished => cases hs
  | @expired remaining status hz =>
    subst hs
    obtain ⟨n⟩ := remaining
    obtain rfl : n = 0 := by simpa [Span.isZero] using hz
    exact ⟨[], rfl, rfl⟩
  | @again remaining calls status _ _ ih =>
    obtain ⟨before, rfl, hb⟩ := ih hs
    refine ⟨(remaining.min joinSlice, .stillRunning) :: before, rfl, ?_⟩
    have hmin := min_joinSlice remaining
    rw [waited, List.map_cons, List.sum_cons, ← waited, hb, Span.minus]
    dsimp only
    omega

end Waits

/-- What is discarded is logged, fault by fault, and nothing is waited for meanwhile. -/
lemma ClearTrace.views {own : List Entry} (ht : ClearTrace own) :
    joins own = [] ∧ lines own = (faultsTaken own).map Feed.discardLine := by
  induction ht with
  | nil => exact ⟨rfl, rfl⟩
  | @cons fault rest _ ih =>
    obtain ⟨hj, hl⟩ := ih
    exact ⟨hj, congrArg (Feed.discardLine fault :: ·) hl⟩

/-- What was joined is among what a thread adds itself. -/
lemma joins_since {own : List Entry} {h k : Hub} (ha : Hub.Adds own h k) :
    joins (h.since k) = joins own :=
  ha.filterMap_since fun _ _ hx => hx.joined?

/-- From one hub to the next the reader is waited for only while the slot is free: all that the slot
took until then has been taken from it. -/
structure Hub.Clears (h k : Hub) : Prop where
  slots : h.Slots k
  clear : ∀ before span answer after, h.since k = before ++ .joined span answer :: after →
    h.fault?.toList ++ handedOver before = faultsTaken before

namespace Hub.Clears

variable {h k l : Hub}

/-- A slot that is clear before each join in two parts is so in the whole. -/
lemma trans (hk : Clears h k) (kl : Clears k l) : Clears h l := by
  refine ⟨hk.slots.trans kl.slots, fun before span answer after hj => ?_⟩
  rw [hk.slots.since_trans kl.slots] at hj
  have hslot := hk.slots.slot
  obtain ⟨more, rfl, hr⟩ | ⟨more, hmore, hr⟩ := List.append_eq_append_iff.1 hj
  · rw [handedOver_append, faultsTaken_append, ← List.append_assoc, hslot, List.append_assoc,
      kl.clear more span answer after hr]
  · cases more with
    | nil =>
      -- it is waited for just where the second part begins
      have hfree : k.fault?.toList ++ [] = [] := kl.clear [] span answer after hr.symm
      rwa [hmore, List.append_nil, (List.append_eq_nil_iff.1 hfree).1, List.append_nil] at hslot
    | cons x more =>
      obtain ⟨rfl, -⟩ := List.cons.inj hr
      exact hk.clear before span answer more hmore

/-- Where nothing is joined, the slot need not be clear. -/
lemma of_joins_eq_nil (hs : h.Slots k) (hj : joins (h.since k) = []) : Clears h k := by
  refine ⟨hs, fun before span answer after hb => ?_⟩
  rw [hb, joins_append] at hj
  cases (List.append_eq_nil_iff.1 hj).2

/-- A join finds the slot clear if nothing is in it. -/
lemma joined (hf : h.fault? = none) (span : Span) (answer : JoinStatus) :
    Clears h (h.record (.joined span answer)) := by
  have hs : h.since (h.record (.joined span answer)) = [.joined span answer] := by
    rw [since, journal_record, List.drop_left]
  refine ⟨slots_record rfl h, fun before span' answer' after hj => ?_⟩
  rw [hs] at hj
  obtain ⟨rfl, -⟩ | ⟨before, -, hnil⟩ := List.cons_eq_append_iff.1 hj
  · rw [hf]
    rfl
  · simp at hnil

end Hub.Clears

namespace Feed

variable {ρ : Type} [Reader ρ]

/-- A wait adds its slices to the journal, and the faults that are discarded before each of them. -/
lemma waits_joinReader (remaining : Span) (r : ρ) (h : Hub) :
    ∃ own, Hub.Adds own h (joinReader remaining r h).2.2 ∧
      Waits remaining (joins own) (joinReader remaining r h).1 ∧
      lines own = (faultsTaken own).map discardLine := by
  -- one case for the last slice of the wait, and one for a slice that is followed by others
  fun_induction joinReader remaining r h with
  | case1 remaining r h k slice status moves r' hj l hr =>
    obtain ⟨cleared, hc, ha⟩ := adds_discardFaults h
    have hl := (Hub.adds_record (.joined slice status) k).trans_nil (Hub.adds_moves moves _)
    obtain ⟨hcj, hcl⟩ := hc.views
    refine ⟨_, ha.trans hl, ?_, ?_⟩
    · rw [joins_append, hcj]
      obtain rfl | hz := hr
      · exact .finished
      · exact .expired hz
    · rw [lines_append, faultsTaken_append, List.map_append, hcl]
      rfl
  | case2 remaining r h k slice status moves r' hj l hr ih =>
    obtain ⟨cleared, hc, ha⟩ := adds_discardFaults h
    have hl := (Hub.adds_record (.joined slice status) k).trans_nil (Hub.adds_moves moves _)
    obtain ⟨hcj, hcl⟩ := hc.views
    obtain ⟨own, hown, hw, hlines⟩ := ih
    refine ⟨_, ha.trans (hl.trans hown), ?_, ?_⟩
    · obtain ⟨hs, hz⟩ := not_or.1 hr
      obtain rfl : status = .stillRunning := by
        cases status with
        | finished => exact absurd rfl hs
        | stillRunning => rfl
      rw [joins_append, hcj]
      exact .again hz hw
    · rw [lines_append, lines_append, faultsTaken_append, faultsTaken_append, List.map_append,
        List.map_append, hcl, hlines]
      rfl

/-- Discarding faults joins nothing. -/
lemma clears_discardFaults (h : Hub) : h.Clears (discardFaults h) := by
  obtain ⟨cleared, hc, ha⟩ := adds_discardFaults h
  exact .of_joins_eq_nil (slots_discardFaults h) ((joins_since ha).trans hc.views.1)

/-- Before each slice the slot is cleared. -/
lemma clears_joinReader (remaining : Span) (r : ρ) (h : Hub) :
    h.Clears (joinReader remaining r h).2.2 := by
  have hmoves (ms : List Move) (k : Hub) : k.Clears (Hub.moves ms k) :=
    .of_joins_eq_nil (Hub.slots_moves ms k) (joins_since (Hub.adds_moves ms k))
  fun_induction joinReader remaining r h with
  | case1 remaining r h k slice status moves r' hj l hr =>
    exact ((clears_discardFaults h).trans (.joined (fault?_discardFaults h) slice status)).trans
      (hmoves moves _)
  | case2 remaining r h k slice status moves r' hj l hr ih =>
    have hl := ((clears_discardFaults h).trans
      (.joined (fault?_discardFaults h) slice status)).trans (hmoves moves _)
    exact hl.trans ih

end Feed

/-- The fault that a move hands over. -/
def Move.pushed? : Move → Option String
  | report fault => some fault
  | _ => none

/-- The faults that moves hand over, in order. -/
def pushes (ms : List Move) : List String := ms.filterMap Move.pushed?

/-- The reader has ended and has no fault left to hand over, though nobody may have noticed yet. -/
def Ended {ρ : Type} [Reader ρ] (r : ρ) : Prop :=
  ∀ span, ∃ ms r', Reader.join r span true = (.finished, ms, r') ∧ pushes ms = []

/-- In one slice the reader hands over the faults and ends, which may be noticed at once or not. -/
def EndsWith {ρ : Type} [Reader ρ] (faults : List String) (r : ρ) : Prop :=
  ∃ status ms r', Reader.join r joinSlice true = (status, ms, r') ∧ pushes ms = faults ∧
    (status = .stillRunning → Ended r')

/-- The reader has the faults still to hand over before it ends, and each of them but the last keeps
it until the slot is cleared the next time. -/
def Owes {ρ : Type} [Reader ρ] : List String → ρ → Prop
  | [], r => EndsWith [] r
  | [fault], r => EndsWith [fault] r
  | fault :: next :: rest, r =>
    ∃ ms r', Reader.join r joinSlice true = (.stillRunning, ms, r') ∧ pushes ms = [fault] ∧
      Owes (next :: rest) r'

/-- Nobody but the reader hands over faults, and the bridge is open. -/
structure Hub.Undisturbed (h : Hub) : Prop where
  isOpen : h.bridge.isSome
  quiet : ∀ batch ∈ h.schedule, pushes batch = []

namespace Hub

variable {h k : Hub}

/-- What a move makes of the slot of an open bridge. -/
lemma fault?_move (ho : h.bridge.isSome) (m : Move) :
    (h.move m).fault? = h.fault?.or m.pushed? := by
  obtain ⟨b, hb⟩ := Option.isSome_iff_exists.1 ho
  cases m with
  | enqueue e => simp [move, enqueue, hb, fault?, Move.pushed?]
  | report text =>
    obtain ⟨events, fault⟩ := b
    cases fault <;> simp [move, report, hb, fault?, Bridge.offer, Move.pushed?]
  | setRunning running => simp [move, setRunning, fault?, Move.pushed?]
  | log line => simp [move, log, Move.pushed?]
  | letGo i =>
    simp only [move, Move.pushed?, Option.or_none]
    cases h.handedBack[i]? with
    | none => rfl
    | some e => simp only [drop_eq, fault?]

/-- The fault that waits after moves is the one that waited, or else the first that is
handed over. -/
lemma fault?_moves (ho : h.bridge.isSome) (ms : List Move) :
    (moves ms h).fault? = h.fault?.or (pushes ms).head? := by
  induction ms generalizing h with
  | nil => exact (Option.or_none).symm
  | cons m rest ih =>
    have hm : (h.move m).bridge.isSome :=
      (reaches_move (s := 0) (g := 0) m).dequeues_nil.isSome_bridge.trans ho
    rw [moves, ih hm, fault?_move ho, Option.or_assoc, pushes, pushes, List.filterMap_cons]
    cases m.pushed? <;> simp

/-- Moves take no fault, so the slot gets what they hand over first, if it is not taken already. -/
lemma slot_moves (ho : h.bridge.isSome) (ms : List Move) :
    h.fault?.toList ++ handedOver (h.since (moves ms h)) =
      (h.fault?.or (pushes ms).head?).toList := by
  have ht : faultsTaken (h.since (moves ms h)) = [] :=
    (adds_moves ms h).filterMap_since fun _ _ hx => hx.faultTaken?
  rw [(slots_moves ms h).slot, ht, fault?_moves ho]
  rfl

/-- While the slot is free one fault can be handed over. -/
lemma handedOver_moves (ho : h.bridge.isSome) (hf : h.fault? = none) (ms : List Move) :
    handedOver (h.since (moves ms h)) = (pushes ms).head?.toList := by
  simpa [hf] using slot_moves ho ms

/-- Where others hand over nothing, the slot is not handed anything. -/
lemma handedOver_quiet (ho : h.bridge.isSome) {ms : List Move} (hms : pushes ms = []) :
    handedOver (h.since (moves ms h)) = [] := by
  simpa [hms] using slot_moves ho ms

end Hub

/-- Moves leave a hub undisturbed. -/
lemma Hub.Undisturbed.moves {h : Hub} (hu : h.Undisturbed) (ms : List Move) :
    (Hub.moves ms h).Undisturbed := by
  refine ⟨(Hub.dequeues_moves ms h).isSome_bridge.trans hu.isOpen, ?_⟩
  rw [Hub.schedule_moves]
  exact hu.quiet

/-- From one hub to the next, both undisturbed, the slot is not handed anything. -/
structure Hub.Rests (h k : Hub) : Prop where
  slots : h.Slots k
  undisturbed : k.Undisturbed
  handedOver : handedOver (h.since k) = []

namespace Hub.Rests

variable {h k l : Hub}

/-- What rests in two parts rests as a whole. -/
lemma trans (hk : Rests h k) (kl : Rests k l) : Rests h l := by
  refine ⟨hk.slots.trans kl.slots, kl.undisturbed, ?_⟩
  rw [hk.slots.since_trans kl.slots, handedOver_append, hk.handedOver, kl.handedOver]
  rfl

/-- Noting something that is not about faults lets a hub rest. -/
lemma record (hu : h.Undisturbed) {entry : Entry} (hn : entry.isNote) :
    Rests h (h.record entry) := by
  refine ⟨slots_record hn h, ⟨hu.isOpen, hu.quiet⟩, ?_⟩
  rw [since, journal_record, List.drop_left]
  exact (Entry.fault_of_isNote hn).1

/-- Others hand over no fault at an undisturbed hub. -/
lemma yield (hu : h.Undisturbed) : Rests h h.yield := by
  have hs := (reaches_yield (h := h) (s := 0) (g := 0)).serves.slots
  unfold Hub.yield at hs ⊢
  cases hb : h.schedule with
  | nil =>
    rw [hb] at hs
    exact ⟨hs, hu, by simp [since, ChangeFeed.handedOver]⟩
  | cons batch rest =>
    rw [hb] at hs
    have hk : Undisturbed { h with schedule := rest } :=
      ⟨hu.isOpen, fun other ho => hu.quiet other (hb ▸ List.mem_cons_of_mem _ ho)⟩
    have hbatch : pushes batch = [] := hu.quiet batch (hb ▸ List.mem_cons_self)
    exact ⟨hs, hk.moves batch, handedOver_quiet hk.isOpen hbatch⟩

/-- Taking the fault of an undisturbed hub hands none over. -/
lemma takeFault (hu : h.Undisturbed) : Rests h h.takeFault.2 := by
  have hy := yield hu
  rcases h.takeFault_cases with ⟨-, ht⟩ | ⟨b, text, hb, hf, ht⟩
  · rw [ht]
    exact hy
  · rw [ht]
    refine hy.trans ⟨?_, ⟨rfl, hy.undisturbed.quiet⟩, ?_⟩
    · exact (Step.takeFault (s := 0) (g := 0) hb hf).slots rfl
    · rw [since, journal_record, List.drop_left]
      rfl

/-- Discarding the faults of an undisturbed hub hands none over. -/
lemma discardFaults (hu : h.Undisturbed) : Rests h (Feed.discardFaults h) := by
  have ht := takeFault hu
  fun_induction Feed.discardFaults h with
  | case1 h k hk =>
    rw [hk] at ht
    exact ht
  | case2 h fault k hk l hs ih =>
    rw [hk] at ht
    have hl : Rests h l := ht.trans (.record ht.undisturbed rfl)
    exact hl.trans (ih hl.undisturbed (takeFault hl.undisturbed))
  | case3 h fault k hk l hs =>
    rw [hk] at ht
    exact ht.trans (.record ht.undisturbed rfl)

end Hub.Rests

namespace Feed

variable {ρ : Type} [Reader ρ] {remaining span : Span} {r r' : ρ} {h : Hub} {status : JoinStatus}
  {ms : List Move} {faults : List String}

/-- What waiting for one slice makes of a hub, if the reader then makes the moves. -/
def waitSlice (span : Span) (status : JoinStatus) (ms : List Move) (h : Hub) : Hub :=
  Hub.moves ms ((discardFaults h).record (.joined span status))

/-- A slice of a wait accounts for the slot. -/
lemma slots_waitSlice (span : Span) (status : JoinStatus) (ms : List Move) (h : Hub) :
    h.Slots (waitSlice span status ms h) :=
  ((slots_discardFaults h).trans (Hub.slots_record rfl _)).trans (Hub.slots_moves ms _)

/-- A slice of a wait is one join. -/
lemma joins_waitSlice (span : Span) (status : JoinStatus) (ms : List Move) (h : Hub) :
    joins (h.since (waitSlice span status ms h)) = [(span, status)] := by
  obtain ⟨cleared, hc, ha⟩ := adds_discardFaults h
  rw [waitSlice, joins_since ((ha.trans (Hub.adds_record _ _)).trans_nil (Hub.adds_moves ms _)),
    joins_append, hc.views.1]
  rfl

/-- In a slice one fault can be handed over. -/
lemma handedOver_waitSlice (hu : h.Undisturbed) (span : Span) (status : JoinStatus)
    (ms : List Move) :
    (waitSlice span status ms h).Undisturbed ∧
      handedOver (h.since (waitSlice span status ms h)) = (pushes ms).head?.toList := by
  have hd := Hub.Rests.discardFaults hu
  have hr : h.Rests ((discardFaults h).record (.joined span status)) :=
    hd.trans (.record hd.undisturbed rfl)
  refine ⟨hr.undisturbed.moves ms, ?_⟩
  rw [waitSlice, hr.slots.since_trans (Hub.slots_moves ms _), handedOver_append, hr.handedOver,
    Hub.handedOver_moves hr.undisturbed.isOpen (fault?_discardFaults h)]
  rfl

/-- A reader that ends at the first join is waited for no longer. -/
lemma joinReader_of_finished
    (hj : Reader.join r (remaining.min joinSlice) true = (.finished, ms, r')) :
    joinReader remaining r h =
      (.finished, r', waitSlice (remaining.min joinSlice) .finished ms h) := by
  rw [← slotFree_discardFaults h] at hj
  rw [joinReader_of_join hj]
  exact if_pos (.inl rfl)

/-- A reader that does not end at a join is waited for with the rest of the time, if
there is any. -/
lemma joinReader_of_stillRunning (hz : ¬ remaining.isZero)
    (hj : Reader.join r (remaining.min joinSlice) true = (.stillRunning, ms, r')) :
    joinReader remaining r h = joinReader (remaining.minus (remaining.min joinSlice)) r'
      (waitSlice (remaining.min joinSlice) .stillRunning ms h) := by
  rw [← slotFree_discardFaults h] at hj
  rw [joinReader_of_join hj]
  exact if_neg (by simp [hz])

/-- The reader is found to have ended after so many joins at most, and the slot took the faults. -/
structure Joined (remaining : Span) (r : ρ) (h : Hub) (faults : List String) (most : Nat) : Prop
    where
  finished : (joinReader remaining r h).1 = .finished
  length_le : (joins (h.since (joinReader remaining r h).2.2)).length ≤ most
  handedOver : h.Undisturbed → handedOver (h.since (joinReader remaining r h).2.2) = faults

/-- Of one fault at most, the first is all. -/
lemma toList_head? (hms : (pushes ms).length ≤ 1) : (pushes ms).head?.toList = pushes ms := by
  cases hp : pushes ms with
  | nil => rfl
  | cons fault rest =>
    rw [hp] at hms
    obtain rfl : rest = [] := by simpa using hms
    rfl

/-- A reader that ends at the first join is joined once, and its fault is taken. -/
lemma Joined.of_finished (hj : Reader.join r (remaining.min joinSlice) true = (.finished, ms, r'))
    (hms : (pushes ms).length ≤ 1) : Joined remaining r h (pushes ms) 1 := by
  have he := joinReader_of_finished (h := h) hj
  refine ⟨by rw [he], ?_, ?_⟩
  · rw [he, joins_waitSlice]
    rfl
  · intro hu
    rw [he, (handedOver_waitSlice hu _ _ ms).2, toList_head? hms]

/-- A reader that goes on after a join is joined once more than from there on. -/
lemma Joined.of_stillRunning {most : Nat} (hz : ¬ remaining.isZero)
    (hj : Reader.join r (remaining.min joinSlice) true = (.stillRunning, ms, r'))
    (hms : (pushes ms).length ≤ 1)
    (he : Joined (remaining.minus (remaining.min joinSlice)) r'
      (waitSlice (remaining.min joinSlice) .stillRunning ms h) faults most) :
    Joined remaining r h (pushes ms ++ faults) (most + 1) := by
  have hs := slots_waitSlice (remaining.min joinSlice) .stillRunning ms h
  have hrest := slots_joinReader (remaining.minus (remaining.min joinSlice)) r'
    (waitSlice (remaining.min joinSlice) .stillRunning ms h)
  have hr := joinReader_of_stillRunning (h := h) hz hj
  refine ⟨hr ▸ he.finished, ?_, ?_⟩
  · rw [hr, hs.since_trans hrest, joins_append, joins_waitSlice]
    exact Nat.succ_le_succ he.length_le
  · intro hu
    obtain ⟨hul, hl⟩ := handedOver_waitSlice hu (remaining.min joinSlice) .stillRunning ms
    rw [hr, hs.since_trans hrest, handedOver_append, hl, he.handedOver hul, toList_head? hms]

/-- A reader that has ended is joined at once. -/
lemma joined_of_ended (he : Ended r) : Joined remaining r h [] 1 := by
  obtain ⟨ms, r', hj, hms⟩ := he (remaining.min joinSlice)
  have hle : (pushes ms).length ≤ 1 := by rw [hms]; exact Nat.zero_le 1
  exact hms ▸ .of_finished hj hle

/-- While a whole slice remains, that is how long the reader is waited for. -/
lemma min_joinSlice_of_le (hT : joinSlice.nanoseconds ≤ remaining.nanoseconds) :
    remaining.min joinSlice = joinSlice ∧ ¬ remaining.isZero := by
  obtain ⟨n⟩ := remaining
  have hpos : 0 < joinSlice.nanoseconds := by decide
  refine ⟨?_, by simpa [Span.isZero] using (hpos.trans_le hT).ne'⟩
  rw [Span.min]
  split
  · rename_i hle
    obtain rfl : n = joinSlice.nanoseconds := Nat.le_antisymm hle hT
    rfl
  · rfl

/-- A reader that ends in one slice is joined in it, or in the one after it. -/
lemma joined_of_endsWith (hT : joinSlice.nanoseconds ≤ remaining.nanoseconds)
    (hf : faults.length ≤ 1) (he : EndsWith faults r) : Joined remaining r h faults 2 := by
  obtain ⟨status, ms, r', hj, rfl, hended⟩ := he
  obtain ⟨hmin, hz⟩ := min_joinSlice_of_le hT
  rw [← hmin] at hj
  cases status with
  | finished =>
    obtain ⟨hfin, hle, hh⟩ := Joined.of_finished (h := h) hj hf
    exact ⟨hfin, hle.trans one_le_two, hh⟩
  | stillRunning =>
    have hj := Joined.of_stillRunning (h := h) hz hj hf (joined_of_ended (hended rfl))
    rwa [List.append_nil] at hj

/-- In each slice the reader gets rid of one fault. -/
lemma joined_of_owes (ho : Owes faults r)
    (hT : max 1 faults.length * joinSlice.nanoseconds ≤ remaining.nanoseconds) :
    Joined remaining r h faults (max 1 faults.length + 1) := by
  induction faults generalizing remaining r h with
  | nil =>
    rw [List.length_nil, Nat.max_eq_left (Nat.zero_le 1), Nat.one_mul] at hT
    exact joined_of_endsWith hT (Nat.zero_le 1) ho
  | cons fault rest ih =>
    have hmax (fault : String) (rest : List String) :
        max 1 (fault :: rest).length = rest.length + 1 :=
      Nat.max_eq_right (Nat.le_add_left 1 rest.length)
    rw [hmax] at hT ⊢
    cases rest with
    | nil =>
      rw [List.length_nil, Nat.zero_add, Nat.one_mul] at hT
      exact joined_of_endsWith hT (Nat.le_refl 1) ho
    | cons next rest =>
      obtain ⟨ms, r', hj, hms, hrest⟩ := ho
      have hone : joinSlice.nanoseconds ≤ remaining.nanoseconds :=
        (Nat.le_mul_of_pos_left _ (Nat.succ_pos _)).trans hT
      obtain ⟨hmin, hz⟩ := min_joinSlice_of_le hone
      rw [← hmin] at hj
      have hle : (pushes ms).length ≤ 1 := by rw [hms]; exact Nat.le_refl 1
      have hleft : max 1 (next :: rest).length * joinSlice.nanoseconds ≤
          (remaining.minus (remaining.min joinSlice)).nanoseconds := by
        rw [List.length_cons, Nat.add_one_mul] at hT
        rw [hmin, Span.minus, hmax]
        exact Nat.le_sub_of_add_le hT
      have hnext := Joined.of_stillRunning (h := h) hz hj hle (ih hrest hleft)
      rwa [hms, hmax] at hnext

end Feed

namespace ReaderThread

variable {letGo slotFree : Bool} {program : List Action} {t : ReaderThread} {span : Span}

/-- The faults that a program hands over before it ends. -/
def owed : List Action → List String
  | [] => []
  | .report fault :: rest => fault :: owed rest
  | .panic :: _ => []
  | _ :: rest => owed rest

/-- Once it is told to end, a program waits for nothing but the slot. -/
def WaitsForSlot (letGo : Bool) (program : List Action) : Prop :=
  letGo = true ∨ Action.awaitRelease ∉ program

/-- How far a program gets: it hands over a fault if the slot is free, and ends if that was all. -/
structure Advances (letGo slotFree : Bool) (program : List Action) : Prop where
  pushes : pushes (advance true letGo slotFree program).1 = (owed program).take slotFree.toNat
  ends : (owed program).drop slotFree.toNat = [] →
    (advance true letGo slotFree program).2.2.isSome
  waits : (owed program).drop slotFree.toNat ≠ [] →
    (advance true letGo slotFree program).2.2 = none ∧
      owed (advance true letGo slotFree program).2.1 = (owed program).drop slotFree.toNat ∧
      WaitsForSlot letGo (advance true letGo slotFree program).2.1

/-- A program that waits for nothing but the slot gets as far as that lets it. -/
lemma advances (hl : WaitsForSlot letGo program) (slotFree : Bool) :
    Advances letGo slotFree program := by
  induction program generalizing slotFree with
  | nil => exact ⟨List.take_nil.symm, fun _ => rfl, fun h => absurd List.drop_nil h⟩
  | cons action rest ih =>
    have hrest : WaitsForSlot letGo rest :=
      hl.imp_right fun hn hm => hn (List.mem_cons_of_mem _ hm)
    cases action with
    | enqueue e =>
      obtain ⟨hp, he, hw⟩ := ih hrest slotFree
      exact ⟨hp, he, hw⟩
    | report text =>
      cases slotFree with
      | true =>
        obtain ⟨hp, he, hw⟩ := ih hrest false
        exact ⟨congrArg (text :: ·) hp, he, hw⟩
      | false => exact ⟨rfl, fun h => absurd h (List.cons_ne_nil _ _), fun _ => ⟨rfl, rfl, hl⟩⟩
    | awaitShutdown =>
      obtain ⟨hp, he, hw⟩ := ih hrest slotFree
      exact ⟨hp, he, hw⟩
    | awaitRelease =>
      obtain rfl : letGo = true := hl.resolve_right (by simp)
      obtain ⟨hp, he, hw⟩ := ih hrest slotFree
      exact ⟨hp, he, hw⟩
    | panic => exact ⟨List.take_nil.symm, fun _ => rfl, fun h => absurd List.drop_nil h⟩

/-- A thread that goes on after a join is still running; one that has come to its end is not. -/
lemma join_advance (hj : t.joined = false) (he : t.exit = none) (hc : t.cancelled = true)
    (span : Span) (slotFree : Bool) :
    (advance true t.letGo slotFree t.program).2.2 = none ∧
        Reader.join t span slotFree =
          (.stillRunning, (advance true t.letGo slotFree t.program).1,
            { t with program := (advance true t.letGo slotFree t.program).2.1 }) ∨
      (advance true t.letGo slotFree t.program).2.2.isSome ∧
        ∃ ms t', Reader.join t span slotFree = (.finished, ms, t') ∧
          pushes ms = pushes (advance true t.letGo slotFree t.program).1 := by
  obtain ⟨cancelled, letGo, program, exit, joined⟩ := t
  subst hj he hc
  show _ ∧ ReaderThread.join _ _ _ = _ ∨ _ ∧ ∃ ms t', ReaderThread.join _ _ _ = _ ∧ _
  simp only [join, run]
  obtain ⟨ms, left, exit⟩ := advance true letGo slotFree program
  cases exit with
  | none => exact .inl ⟨rfl, rfl⟩
  | some exit =>
    refine .inr ⟨rfl, ?_⟩
    cases exit with
    | returned => exact ⟨_, _, rfl, rfl⟩
    | panicked => exact ⟨_, _, rfl, by simp [pushes, Move.pushed?]⟩

/-- A reader that was told to end, and owes one fault at most, ends with that fault. -/
lemma endsWith_owed (hj : t.joined = false) (he : t.exit = none) (hc : t.cancelled = true)
    (hl : WaitsForSlot t.letGo t.program) (ho : (owed t.program).length ≤ 1) :
    EndsWith (owed t.program) t := by
  have ha := advances hl true
  have hend := ha.ends (List.drop_eq_nil_of_le ho)
  obtain ⟨hnone, -⟩ | ⟨-, ms, t', hjoin, hms⟩ := join_advance hj he hc joinSlice true
  · rw [hnone] at hend
    cases hend
  · refine ⟨.finished, ms, t', hjoin, ?_, nofun⟩
    rw [hms, ha.pushes]
    exact List.take_of_length_le ho

/-- A thread that was told to end owes the faults that its program hands over before it ends. -/
lemma owes (hj : t.joined = false) (he : t.exit = none) (hc : t.cancelled = true)
    (hl : WaitsForSlot t.letGo t.program) : Owes (owed t.program) t := by
  generalize ho : owed t.program = faults
  induction faults generalizing t with
  | nil =>
    have hend := endsWith_owed hj he hc hl (by simp [ho])
    rwa [ho] at hend
  | cons fault rest ih =>
    cases rest with
    | nil =>
      have hend := endsWith_owed hj he hc hl (by simp [ho])
      rwa [ho] at hend
    | cons next rest =>
      obtain ⟨hp, -, hw⟩ := advances hl true
      rw [ho] at hp hw
      obtain ⟨hnone, hleft, hslot⟩ := hw (List.cons_ne_nil _ _)
      obtain ⟨-, hjoin⟩ | ⟨hsome, -⟩ := join_advance hj he hc joinSlice true
      · exact ⟨_, _, hjoin, hp, ih hj he hc hslot hleft⟩
      · rw [hnone] at hsome
        cases hsome

end ReaderThread

namespace Feed

/-- Waiting for a reader ends, whatever the reader does. It is waited for in slices of what remains
of the time, of which there are so many at most and the last of which decides; it is given up only
after the whole time and one more attempt. Each slice begins with the slot free, and what was taken
from the slot until then is logged fault by fault, in the order in which it was handed over. So a
reader that has faults still to hand over before it ends is joined if there is a slice for each, and
a thread that was told to end owes just the faults of its program. -/
theorem joinReader_ends {ρ : Type} [Reader ρ] (timeout : Span) (r : ρ) (h : Hub) :
    (∃ status r' k, joinReader timeout r h = (status, r', k) ∧
      (joins (h.since k)).length ≤ timeout.nanoseconds ⌈/⌉ joinSlice.nanoseconds + 1 ∧
      (joins (h.since k)).getLast?.map Prod.snd = some status ∧
      (∀ before span answer after, joins (h.since k) = before ++ (span, answer) :: after →
        span.nanoseconds = min joinSlice.nanoseconds (timeout.nanoseconds - waited before) ∧
          (after ≠ [] → answer = .stillRunning)) ∧
      (status = .stillRunning → ∃ before, joins (h.since k) = before ++ [(⟨0⟩, .stillRunning)] ∧
        waited before = timeout.nanoseconds) ∧
      (∀ before span answer after, h.since k = before ++ .joined span answer :: after →
        h.fault?.toList ++ handedOver before = faultsTaken before) ∧
      h.fault?.toList ++ handedOver (h.since k) = faultsTaken (h.since k) ++ k.fault?.toList ∧
      (∃ own, Hub.Adds own h k ∧ lines own = (faultsTaken (h.since k)).map discardLine) ∧
      ∀ faults, Owes faults r →
        max 1 faults.length * joinSlice.nanoseconds ≤ timeout.nanoseconds →
        status = .finished ∧ (joins (h.since k)).length ≤ max 1 faults.length + 1 ∧
          (h.Undisturbed → handedOver (h.since k) = faults)) ∧
    ∀ t : ReaderThread, t.joined = false → t.exit = none → t.cancelled = true →
      ReaderThread.WaitsForSlot t.letGo t.program → Owes (ReaderThread.owed t.program) t := by
  refine ⟨⟨_, _, _, rfl, ?_⟩, fun t hj he hc hl => ReaderThread.owes hj he hc hl⟩
  obtain ⟨own, ha, hw, hl⟩ := waits_joinReader timeout r h
  have hc := clears_joinReader timeout r h
  have htaken : faultsTaken (h.since (joinReader timeout r h).2.2) = faultsTaken own :=
    ha.filterMap_since fun _ _ hx => hx.faultTaken?
  rw [← joins_since ha] at hw
  refine ⟨hw.length_le, hw.getLast?_eq, fun _ _ _ _ => hw.span_eq, hw.exhausted, hc.clear,
    hc.slots.slot, ⟨own, ha, by rw [htaken, hl]⟩, ?_⟩
  intro faults ho hT
  obtain ⟨hfin, hle, hh⟩ := joined_of_owes (h := h) ho hT
  exact ⟨hfin, hle, hh⟩

/-- The slot is taken, and the reader has three more faults to hand over. -/
theorem joinReader_ends_threeFaults :
    let t : ReaderThread := ⟨true, false, [.report "b", .awaitShutdown, .report "c", .report "d"],
      none, false⟩
    let h : Hub := { Hub.idle .none with bridge := some ⟨[], some "a"⟩ }
    ∃ status r' k, joinReader (.ofMillis 30) t h = (status, r', k) ∧ status = .finished ∧
      ["a", "b", "c", "d"] = faultsTaken (h.since k) ++ k.fault?.toList := by
  intro t h
  obtain ⟨⟨status, r', k, hj, -, -, -, -, -, hslot, -, hends⟩, howes⟩ :=
    joinReader_ends (.ofMillis 30) t h
  have hl : ReaderThread.WaitsForSlot t.letGo t.program := .inr (by simp [t])
  obtain ⟨hfin, -, hh⟩ := hends _ (howes t rfl rfl rfl hl) (by decide)
  rw [hh ⟨rfl, nofun⟩] at hslot
  exact ⟨status, r', k, hj, hfin, hslot⟩

end Feed

end ChangeFeed
