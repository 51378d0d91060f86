import ChangeFeed.Batch
import ChangeFeed.Proofs.Hub.Path

/-!
# Polls as runs of steps

Processing an event starts with its message in hand and ends without it, whatever becomes of the
event; a round of a poll, and so a poll, leaves the hands as they are.
-/

namespace ChangeFeed

variable {h : Hub} {s g : Multiset Message}

/-- Asking the filter is a run. -/
lemma Pipeline.reaches_recordFilter (p : Pipeline) (m : Message) :
    Reaches Act.attends ⟨h, s, g⟩ ⟨p.recordFilter m h, s, g⟩ := by
  unfold recordFilter
  split
  · exact .refl
  · exact Hub.reaches_yield.trans (Hub.reaches_record rfl rfl)

/-- Running the pipeline is a run. -/
lemma Pipeline.reaches_run (p : Pipeline) (e : Event) :
    Reaches Act.attends ⟨h, s, g⟩ ⟨(p.run e h).2, s, g⟩ := by
  have hf := p.reaches_recordFilter (h := h) (s := s) (g := g) e.message
  unfold run
  split
  · exact hf
  · exact hf
  · exact hf.trans (Hub.reaches_yield.trans (Hub.reaches_record rfl rfl))

namespace Assembler

variable (a : Assembler)

/-- Processing an event takes its message out of the hands on every path. -/
lemma reaches_process (e : Event) :
    Reaches Act.attends ⟨h, e.message ::ₘ s, g⟩ ⟨(a.process e h).2, s, g⟩ := by
  have hr := a.pipeline.reaches_run (h := h) (s := e.message ::ₘ s) (g := g) e
  -- a failed conversion releases without acknowledging; else the release may fail in its turn
  unfold process
  split
  · rename_i cause k hk
    rw [hk] at hr
    exact (hr.trans Hub.reaches_yield).trans (Hub.reaches_releaseOrLog _ _)
  · rename_i converted k hk
    rw [hk] at hr
    have ha := (hr.trans (Hub.reaches_acknowledge e)).trans Hub.reaches_yield
    have hl := ha.trans (Hub.reaches_release e.message)
    split <;> rename_i heq <;> rw [heq] at hl <;> exact hl

/-- A round is a run. -/
lemma reaches_round (remaining : Nat) (records : List FeedRecord) :
    Reaches Act.serves ⟨h, s, g⟩ ⟨(a.round remaining records h).2, s, g⟩ := by
  unfold round
  split
  · rename_i e k hd
    have hp := (Hub.reaches_dequeue_some (s := s) (g := g) hd).trans (a.reaches_process e).serves
    split
    · rename_i cause l hl
      rw [hl] at hp
      exact hp
    · rename_i record l hl
      rw [hl] at hp
      have ht := hp.trans Hub.reaches_takeFault
      dsimp only
      split
      · exact hp.trans (Hub.reaches_log _).serves
      · split <;> rename_i hf <;> rw [hf] at ht <;> exact ht
  · rename_i k hd
    have hw := (Hub.reaches_dequeue_none (s := s) (g := g) hd).serves
    have ht := hw.trans Hub.reaches_takeFault
    split
    · exact hw.trans (Hub.reaches_log _).serves
    · split
      · rename_i hf
        rw [hf] at ht
        exact ht
      · rename_i hf
        rw [hf] at ht
        split <;> exact ht

/-- Polling is a run, whatever has been collected so far. -/
lemma reaches_pollFrom (remaining : Nat) (records : List FeedRecord) :
    Reaches Act.serves ⟨h, s, g⟩ ⟨(a.pollFrom remaining records h).2, s, g⟩ := by
  have hf := (Hub.reaches_readFlag (h := h) (s := s) (g := g)).serves
  fun_induction pollFrom a remaining records h with
  | case1 remaining records h k hk =>
    rw [hk] at hf
    exact hf
  | case2 remaining records h k hk poll l hr =>
    rw [hk] at hf
    have hr' := a.reaches_round (h := k) (s := s) (g := g) remaining records
    rw [hr] at hr'
    exact hf.trans hr'
  | case3 remaining records h k hk remaining' records' l hr ih =>
    rw [hk] at hf
    have hr' := a.reaches_round (h := k) (s := s) (g := g) remaining records
    rw [hr] at hr'
    exact (hf.trans hr').trans (ih Hub.reaches_readFlag.serves)

/-- A poll is a run. -/
lemma reaches_poll : Reaches Act.serves ⟨h, s, g⟩ ⟨(a.poll h).2, s, g⟩ :=
  a.reaches_pollFrom a.limit.1 []

variable {a} {k l : Hub} {remaining left : Nat} {records middle : List FeedRecord} {poll : Poll}

/-- A poll that finds the flag clear returns its batch. -/
lemma pollFrom_of_clear (hf : h.readFlag = (false, k)) :
    a.pollFrom remaining records h = (.done (.ok records), k) := by
  rw [pollFrom, hf]

/-- A poll whose round ends it comes to what that does. -/
lemma pollFrom_of_ends (hf : h.readFlag = (true, k))
    (hr : a.round remaining records k = (.ends poll, l)) :
    a.pollFrom remaining records h = (poll, l) := by
  rw [pollFrom, hf]
  dsimp only
  rw [hr]

/-- A poll whose round goes on comes to what the rest does. -/
lemma pollFrom_of_goesOn (hf : h.readFlag = (true, k))
    (hr : a.round remaining records k = (.goesOn left middle, l)) :
    a.pollFrom remaining records h = a.pollFrom left middle l := by
  rw [pollFrom, hf]
  dsimp only
  rw [hr]

end Assembler

end ChangeFeed
