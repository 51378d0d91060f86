import ChangeFeed.Proofs.Batch.Path
import ChangeFeed.Proofs.Hub.Report

/-!
# How polls and conversions tell of failed releases

An event that is processed is released once, and if that fails the error is returned or logged, and
not both: it is returned if the event was converted, and logged if something else is to be returned.
Neither the guard around the event nor the message finds anything left to release afterwards, which
`processGuarded_eq` spells out.
-/

namespace ChangeFeed

/-- The release error behind an error, if there is one. -/
def FeedError.releaseErrors : FeedError → List ReleaseError
  | .release e => [e]
  | _ => []

/-- The release error that a call returns, if that is why it failed. -/
def releaseErrors {α : Type} : Except FeedError α → List ReleaseError
  | .error cause => cause.releaseErrors
  | .ok _ => []

/-- The release error that a poll returns, if that is why it failed. -/
def Poll.releaseErrors : Poll → List ReleaseError
  | .done result => ChangeFeed.releaseErrors result
  | .waiting => []

/-- The release error that a round ends the poll with. -/
def Assembler.Round.releaseErrors : Assembler.Round → List ReleaseError
  | .ends poll => poll.releaseErrors
  | .goesOn _ _ => []

open Hub (Reports)

/-- A line that tells of a drop tells of the failure. -/
lemma LogLine.TellsOfDrop.tellsOf {line : LogLine} {m : Message} {e : ReleaseError}
    (h : line.TellsOfDrop m e) : line.TellsOf m e := by
  obtain ⟨level, rfl⟩ := h
  exact ⟨level, .inl rfl⟩

/-- What warns of nothing but events that were let go of. -/
lemma Hub.Reports.all {errors : List ReleaseError} {h k : Hub}
    (hk : Reports LogLine.TellsOfDrop errors h k) : Reports LogLine.TellsOf errors h k :=
  hk.mono fun _ _ _ => LogLine.TellsOfDrop.tellsOf

/-- Running the pipeline reports nothing. -/
lemma Pipeline.reports_run (p : Pipeline) (e : Event) (h : Hub) :
    Reports LogLine.TellsOfDrop [] h (p.run e h).2 := by
  have hf : Reports LogLine.TellsOfDrop [] h (p.recordFilter e.message h) := by
    unfold recordFilter
    cases p.filter with
    | none => exact .refl
    | some f => exact (Hub.reports_yield h).trans (Hub.reports_record rfl _)
  unfold run
  split
  · exact hf
  · exact hf
  · exact hf.trans ((Hub.reports_yield _).trans (Hub.reports_record rfl _))

namespace Assembler

variable (a : Assembler)

/-- Processing an event returns the error of its release or warns of it, and not both. -/
lemma reports_process (e : Event) (h : Hub) :
    Reports LogLine.TellsOf (releaseErrors (a.process e h).1) h (a.process e h).2 := by
  have hr := (a.pipeline.reports_run e h).all
  unfold process
  split
  · rename_i cause k hk
    rw [hk] at hr
    have hl : Reports LogLine.TellsOf [] k.yield
        (k.yield.releaseOrLog .abandonedFailure e.message) :=
      Hub.reports_releaseOrLog (fun level _ _ => ⟨level, .inr (.inr rfl)⟩) e.message k.yield
    exact hr.trans ((Hub.reports_yield k).all.trans hl)
  · rename_i converted k hk
    rw [hk] at hr
    have ha := hr.trans ((Hub.reports_acknowledge e k).trans (Hub.reports_yield _)).all
    have hl := ha.trans (Hub.reports_release e.message (k.acknowledge e).yield)
    split <;> rename_i heq <;> rw [heq] at hl <;> exact hl

/-- Finishing a batch reports nothing. -/
lemma reports_finish (records : List FeedRecord) (h : Hub) :
    Reports LogLine.TellsOf [] h (finish records h).2 :=
  Hub.reports_log rfl h

/-- A round that goes on returns nothing. -/
lemma reports_round (remaining : Nat) (records : List FeedRecord) (h : Hub) :
    Reports LogLine.TellsOf (a.round remaining records h).1.releaseErrors h
      (a.round remaining records h).2 := by
  have hd := (Hub.reports_dequeue h).all
  unfold round
  split
  · rename_i e k hk
    rw [hk] at hd
    have hp := hd.trans (a.reports_process e k)
    split
    · rename_i cause l hl
      rw [hl] at hp
      exact hp
    · rename_i record l hl
      rw [hl] at hp
      have ht := hp.trans (Hub.reports_takeFault l).all
      dsimp only
      split
      · exact hp.trans (reports_finish _ l)
      · split <;> rename_i hf <;> rw [hf] at ht <;> exact ht
  · rename_i k hk
    rw [hk] at hd
    have ht := hd.trans (Hub.reports_takeFault k).all
    split
    · exact hd.trans (reports_finish _ k)
    · split
      · rename_i hf
        rw [hf] at ht
        exact ht
      · rename_i hf
        rw [hf] at ht
        split <;> exact ht

/-- A poll with a batch in hand returns or warns of each failure. -/
lemma reports_pollFrom (remaining : Nat) (records : List FeedRecord) (h : Hub) :
    Reports LogLine.TellsOf (a.pollFrom remaining records h).1.releaseErrors h
      (a.pollFrom remaining records h).2 := by
  have hf := (Hub.reports_readFlag h).all
  fun_induction pollFrom a remaining records h with
  | case1 remaining records h k hk =>
    rw [hk] at hf
    exact hf
  | case2 remaining records h k hk poll l hr =>
    rw [hk] at hf
    have ht := a.reports_round remaining records k
    rw [hr] at ht
    exact hf.trans ht
  | case3 remaining records h k hk left middle l hr ih =>
    rw [hk] at hf
    have ht := a.reports_round remaining records k
    rw [hr] at ht
    exact (hf.trans ht).trans (ih (Hub.reports_readFlag l).all)

/-- A poll returns or warns of each failure. -/
lemma reports_poll (h : Hub) :
    Reports LogLine.TellsOf (a.poll h).1.releaseErrors h (a.poll h).2 :=
  a.reports_pollFrom a.limit.1 [] h

end Assembler

/-- A failed release that is logged adds the release and the line. -/
lemma Message.parting_of_error {m : Message} {cause : ReleaseError}
    (line : Message → ReleaseError → LogLine) (h : m.releaseError? = some cause) :
    m.parting line = [.released m, .logged (line m cause)] := by
  have hb : m.buffer.isSome := by
    by_contra hn
    rw [releaseError?_of_isReleased (by simpa [isReleased] using hn)] at h
    cases h
  simp [parting, releases, hb, h]

/-- Lets go of the guard around an event in process, and then of its message. The guard releases
the message and logs a failure; what is left of the message has no buffer. -/
def Hub.dropGuard (m : Message) (h : Hub) : Hub :=
  match h.release m with
  | (.ok (), h) => h.drop m.withoutBuffer
  | (.error e, h) =>
    (h.log (.abandonedFailure h.redaction m.withoutBuffer e)).drop m.withoutBuffer

/-- What is left of a released message has nothing to release. -/
lemma Hub.drop_withoutBuffer (m : Message) (h : Hub) : h.drop m.withoutBuffer = h := rfl

/-- A message that gave up its buffer is left alone. -/
lemma Hub.dropGuard_withoutBuffer (m : Message) (h : Hub) : h.dropGuard m.withoutBuffer = h := by
  rw [dropGuard, Message.withoutBuffer, release]
  exact drop_withoutBuffer m.withoutBuffer h

/-- A message that still has its buffer is released, with a line for a failure. -/
lemma Hub.dropGuard_eq (m : Message) (h : Hub) :
    h.dropGuard m = h.releaseOrLog .abandonedFailure m := by
  unfold dropGuard releaseOrLog
  obtain ⟨result, k⟩ := h.release m
  cases result with
  | ok _ => exact drop_withoutBuffer m k
  | error e => exact drop_withoutBuffer m (k.log (.abandonedFailure k.redaction m e))

namespace Assembler

variable (a : Assembler) (e : Event) (h : Hub)

/-- Converts one event that is kept in a guard: on every path the guard, and with it the message, is
let go of in the end. -/
def processGuarded : Except FeedError (Option FeedRecord) × Hub :=
  match a.pipeline.run e h with
  | (.error cause, h) => (.error (.pipeline cause), h.yield.dropGuard e.message)
  | (.ok converted, h) =>
    match (h.acknowledge e).yield.release e.message with
    | (.error cause, h) => (.error (.release cause), h.dropGuard e.message.withoutBuffer)
    | (.ok (), h) => (.ok (converted.map a.feedRecord), h.dropGuard e.message.withoutBuffer)

/-- A guard whose event was released before does nothing. -/
lemma processGuarded_eq : a.processGuarded e h = a.process e h := by
  unfold processGuarded process
  obtain ⟨result, k⟩ := a.pipeline.run e h
  cases result with
  | error cause =>
    dsimp only
    rw [Hub.dropGuard_eq]
  | ok converted =>
    dsimp only
    obtain ⟨released, l⟩ := (k.acknowledge e).yield.release e.message
    -- the event was released by now, whether that succeeded or not
    cases released with
    | ok _ =>
      dsimp only
      rw [Hub.dropGuard_withoutBuffer]
    | error failure =>
      dsimp only
      rw [Hub.dropGuard_withoutBuffer]

/-- If the conversion fails and the release fails, too, the error of the conversion is returned and
the other one logged. -/
lemma process_failed {cause : PipelineError} (hc : a.pipeline.result e = .error cause) :
    (a.process e h).1 = .error (.pipeline cause) ∧
      ∀ failure, e.message.releaseError? = some failure →
        ∃ new level, (a.process e h).2.journal = h.journal ++ new ++
          [.released e.message, .logged (.abandonedFailure level e.message failure)] := by
  have hr := a.pipeline.run_fst e h
  rw [hc] at hr
  unfold process
  split
  · rename_i cause' k hk
    rw [hk] at hr
    obtain rfl := Except.error.inj hr
    refine ⟨rfl, ?_⟩
    intro failure hf
    have hg := (a.pipeline.reaches_run (h := h) (s := 0) (g := 0) e).trans Hub.reaches_yield
    rw [hk] at hg
    obtain ⟨new, hn⟩ := hg.grows
    obtain ⟨hj, -⟩ := Hub.releaseOrLog_frame .abandonedFailure e.message k.yield
    rw [Message.parting_of_error _ hf] at hj
    exact ⟨new, _, hn.symm ▸ hj⟩
  · rename_i converted k hk
    rw [hk] at hr
    cases hr

end Assembler

end ChangeFeed
