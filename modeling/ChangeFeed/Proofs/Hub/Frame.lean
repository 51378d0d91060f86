import ChangeFeed.Hub.Measure
import ChangeFeed.Proofs.Hub.Trace

/-!
# What operations leave as it is

Releasing and letting go of messages, noting and logging only add to the journal. Where other
threads act, what becomes of the running flag and of the bridge is what these make of them. And
whatever is done to a hub, the redaction level stays what it is: only the start of a feed changes
it.
-/

namespace ChangeFeed.Hub

/-- Nothing but the journal differs. -/
def Notes (h k : Hub) : Prop :=
  k = { h with journal := k.journal }

variable {h k l : Hub}

namespace Notes

/-- A hub that stays as it is differs in nothing. -/
lemma refl : h.Notes h := rfl

/-- What differs in the journal only, twice, does so as a whole. -/
lemma trans (hk : h.Notes k) (kl : k.Notes l) : h.Notes l := by
  unfold Notes at *
  rw [kl, hk]

/-- Noting something changes the journal only. -/
lemma record (entry : Entry) : h.Notes (h.record entry) := rfl

/-- The moves that others will make are left. -/
lemma schedule (hk : h.Notes k) : k.schedule = h.schedule := by
  rw [hk]

/-- The running flag is left. -/
lemma running (hk : h.Notes k) : k.running = h.running := by
  rw [hk]

/-- The bridge is left. -/
lemma bridge (hk : h.Notes k) : k.bridge = h.bridge := by
  rw [hk]

/-- The redaction level is left. -/
lemma redaction (hk : h.Notes k) : k.redaction = h.redaction := by
  rw [hk]

/-- Releasing a message changes the journal only. -/
lemma release (m : Message) : h.Notes (h.release m).2 := by
  unfold Hub.release
  cases m.buffer with
  | none => exact refl
  | some b => cases m.releaseError? <;> exact record _

/-- Releasing a message and logging a failure changes the journal only. -/
lemma releaseOrLog (line : RedactionLevel → Message → ReleaseError → LogLine) (m : Message) :
    h.Notes (h.releaseOrLog line m) := by
  have hr := release (h := h) m
  unfold Hub.releaseOrLog
  split <;> rename_i hk <;> rw [hk] at hr
  · exact hr
  · exact hr.trans (record _)

end Notes

/-- Letting go of an event that was handed back leaves the running flag and the bridge. -/
lemma letGo_frame (i : Nat) (h : Hub) :
    (h.move (.letGo i)).running = h.running ∧ (h.move (.letGo i)).bridge = h.bridge := by
  simp only [move]
  cases h.handedBack[i]? with
  | none => exact ⟨rfl, rfl⟩
  | some e =>
    have hn : Notes { h with handedBack := h.handedBack.eraseIdx i }
        (Hub.drop e.message { h with handedBack := h.handedBack.eraseIdx i }) :=
      .releaseOrLog .droppedFailure e.message
    exact ⟨hn.running, hn.bridge⟩

/-- What a move makes of the running flag and of the bridge depends on these only. -/
lemma move_congr (m : Move) (hr : k.running = h.running) (hb : k.bridge = h.bridge) :
    (k.move m).running = (h.move m).running ∧ (k.move m).bridge = (h.move m).bridge := by
  cases m with
  | enqueue e =>
    simp only [move, enqueue, hb]
    cases h.bridge with
    | none => exact ⟨hr, hb⟩
    | some b => exact ⟨hr, rfl⟩
  | report text =>
    simp only [move, report, hb]
    cases h.bridge with
    | none => exact ⟨hr, hb⟩
    | some b => exact ⟨hr, rfl⟩
  | setRunning running => exact ⟨rfl, hb⟩
  | log line => exact ⟨hr, hb⟩
  | letGo i =>
    obtain ⟨hr', hb'⟩ := letGo_frame i h
    obtain ⟨kr, kb⟩ := letGo_frame i k
    exact ⟨(kr.trans hr).trans hr'.symm, (kb.trans hb).trans hb'.symm⟩

/-- What moves make of the running flag and of the bridge depends on these only. -/
lemma moves_congr (ms : List Move) (hr : k.running = h.running) (hb : k.bridge = h.bridge) :
    (moves ms k).running = (moves ms h).running ∧ (moves ms k).bridge = (moves ms h).bridge := by
  induction ms generalizing h k with
  | nil => exact ⟨hr, hb⟩
  | cons m rest ih =>
    obtain ⟨hr', hb'⟩ := move_congr m hr hb
    exact ih hr' hb'

/-- Moves after moves. -/
lemma moves_append (as bs : List Move) (h : Hub) : moves (as ++ bs) h = moves bs (moves as h) := by
  induction as generalizing h with
  | nil => rfl
  | cons m rest ih => exact ih (h.move m)

/-- Nobody but other threads acts on the running flag and on the bridge: these are what the moves
make of them that other threads made meanwhile. -/
structure LeftToOthers (h k : Hub) : Prop where
  moves : ∃ past, h.schedule = past ++ k.schedule ∧
    k.running = (moves past.flatten h).running ∧ k.bridge = (moves past.flatten h).bridge

namespace LeftToOthers

/-- Nobody acts. -/
lemma same (hs : k.schedule = h.schedule) (hr : k.running = h.running) (hb : k.bridge = h.bridge) :
    h.LeftToOthers k :=
  ⟨[], hs.symm, hr, hb⟩

/-- Nobody acts, and nothing changes. -/
lemma refl : h.LeftToOthers h :=
  same rfl rfl rfl

/-- Something is noted. -/
lemma note (entry : Entry) (h : Hub) : h.LeftToOthers (h.record entry) :=
  same rfl rfl rfl

/-- What others do first they do first. -/
lemma trans (hk : h.LeftToOthers k) (kl : k.LeftToOthers l) : h.LeftToOthers l := by
  obtain ⟨past, hp, hr, hb⟩ := hk
  obtain ⟨later, hl, hr', hb'⟩ := kl
  obtain ⟨mr, mb⟩ := moves_congr later.flatten hr hb
  refine ⟨past ++ later, by rw [hp, hl, List.append_assoc], ?_, ?_⟩
  · rw [List.flatten_append, moves_append, hr', mr]
  · rw [List.flatten_append, moves_append, hb', mb]

/-- Others make the next batch of their moves. -/
lemma yield (h : Hub) : h.LeftToOthers h.yield := by
  unfold Hub.yield
  cases hs : h.schedule with
  | nil => exact refl
  | cons batch rest =>
    obtain ⟨hr, hb⟩ := moves_congr (h := h) (k := { h with schedule := rest }) batch rfl rfl
    refine ⟨[batch], by rw [hs, schedule_moves]; rfl, ?_, ?_⟩
    · rw [List.flatten_singleton, hr]
    · rw [List.flatten_singleton, hb]

end LeftToOthers

/-- Dropping a message leaves the redaction level. -/
lemma redaction_drop (m : Message) (h : Hub) : (h.drop m).redaction = h.redaction :=
  (Notes.releaseOrLog _ m).redaction

/-- Reporting a fault leaves the redaction level. -/
lemma redaction_report (origin : Origin) (text : String) (h : Hub) :
    (h.report origin text).2.redaction = h.redaction := by
  unfold report
  cases h.bridge <;> rfl

/-- No move is about the redaction level. -/
lemma redaction_move (m : Move) (h : Hub) : (h.move m).redaction = h.redaction := by
  cases m with
  | enqueue e =>
    simp only [move, enqueue]
    cases h.bridge <;> rfl
  | report text => exact redaction_report .producer text h
  | setRunning running => rfl
  | log line => rfl
  | letGo i =>
    simp only [move]
    cases h.handedBack[i]? with
    | none => rfl
    | some e => exact redaction_drop e.message _

/-- Moves leave the redaction level. -/
lemma redaction_moves (ms : List Move) (h : Hub) : (moves ms h).redaction = h.redaction := by
  induction ms generalizing h with
  | nil => rfl
  | cons m rest ih => exact (ih (h.move m)).trans (redaction_move m h)

/-- Others that act meanwhile leave the redaction level. -/
lemma redaction_yield (h : Hub) : h.yield.redaction = h.redaction := by
  unfold yield
  cases h.schedule with
  | nil => rfl
  | cons batch rest => exact redaction_moves batch _

/-- Taking a fault leaves the redaction level. -/
lemma redaction_takeFault (h : Hub) : h.takeFault.2.redaction = h.redaction := by
  obtain ⟨-, ht⟩ | ⟨b, text, -, -, ht⟩ := h.takeFault_cases <;> rw [ht] <;> exact redaction_yield h

/-- Draining the bridge leaves the redaction level. -/
lemma redaction_drain (h : Hub) : h.drain.2.redaction = h.redaction := by
  simp only [drain]
  cases h.yield.bridge with
  | none => exact redaction_yield h
  | some b =>
    dsimp only
    rw [recordDequeued_eq]
    exact redaction_yield h

end ChangeFeed.Hub
