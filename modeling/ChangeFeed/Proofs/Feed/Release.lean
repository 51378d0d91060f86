import ChangeFeed.Doubles
import ChangeFeed.Proofs.Feed.World
import ChangeFeed.Proofs.Hub.Custody

/-!
# Every buffer is released exactly once

Over a whole history, with failing starts, failing polls, refused conversions, repeated stops, late
enqueues and failing buffers, no buffer is released twice, and none is lost sight of: what is not
released waits in the open bridge, is in the hands of a thread that is about to release it, or is
with a producer that got it back. Once all of these are gone every buffer was released.
-/

namespace ChangeFeed.World

variable {ρ : Type} {w : World ρ}

/-- When life begins nothing is to be accounted for. -/
lemma Fresh.accounted (hw : w.Fresh) : w.point.Accounted := by
  intro m _
  cases hw with
  | feed hb hh hj =>
    simp [point, hub, Feed.new, Point.held, Point.received, Hub.resident, hb, hh, hj, released,
      offered]
  | bridge hb hh hj =>
    simp [point, hub, Point.held, Point.received, Hub.resident, hb, hh, hj, released, offered,
      Bridge.empty]

/-- When life begins nothing has been noted. -/
lemma Fresh.journal (hw : w.Fresh) : w.hub.journal = [] := by
  cases hw with
  | feed _ _ hj => exact hj
  | bridge _ _ hj => exact hj

/-- Whatever is reached from the beginning is accounted for. -/
lemma Fresh.accounted_of_reaches {p : Point} (hw : w.Fresh) (h : Reaches Act.any w.point p) :
    p.Accounted :=
  h.preserves (fun _ st => st.accounted) hw.accounted

/-- Between two calls, what is not released waits in the bridge or was handed back. -/
lemma Fresh.count_released_run [Reader ρ] (hw : w.Fresh) (calls : List Call) {m : Message}
    (hm : m.buffer.isSome) :
    (released (w.run calls).hub.journal).count m +
        ((messages (w.run calls).hub.resident).count m +
          (messages (w.run calls).hub.handedBack).count m) =
      (w.run calls).received.count m := by
  have ha := hw.accounted_of_reaches (reaches_run hw.unopened calls) m hm
  simpa [point, Point.held, Point.received, received] using ha

/-- At every point of a history, the journal so far being any beginning of the journal, each buffer
received was either released or is held, and of a message received once the buffer was released at
most once. Between two calls no buffer is in anybody's hands. Once the feed is let go of and nothing
is left with a producer, each buffer was released as often as it was received. -/
theorem released_exactly_once [Reader ρ] (hw : w.Fresh) (calls : List Call) :
    (∀ journal, journal <+: (w.run calls).hub.journal → ∃ p : Point,
      Reaches Act.any w.point p ∧ Reaches Act.any p (w.run calls).point ∧
      p.hub.journal = journal ∧
      ∀ m : Message, m.buffer.isSome →
        (released journal).count m + p.held.count m = p.received.count m ∧
        (p.received.count m = 1 →
          (released journal).count m ≤ 1 ∧ (m ∉ released journal ↔ m ∈ p.held))) ∧
    (∀ m : Message, m.buffer.isSome →
      (released (w.run calls).hub.journal).count m +
          ((messages (w.run calls).hub.resident).count m +
            (messages (w.run calls).hub.handedBack).count m) =
        (w.run calls).received.count m) ∧
    (∀ ms, (w.run (calls ++ [.letGo, .others ms])).hub.bridge = none ∧
      ((w.run (calls ++ [.letGo, .others ms])).hub.handedBack = [] →
        ∀ m : Message, m.buffer.isSome →
          (released (w.run (calls ++ [.letGo, .others ms])).hub.journal).count m =
            (w.run (calls ++ [.letGo, .others ms])).received.count m)) := by
  refine ⟨?_, ?_, ?_⟩
  -- every step of a run is accounted for, so each journal on the way belongs to such a point
  · intro journal hj
    have hr := reaches_run hw.unopened calls
    obtain ⟨p, hp, hq, rfl⟩ := hr.passes (by simp [point, hw.journal]) hj
    have ha := hw.accounted_of_reaches hp
    exact ⟨p, hp, hq, rfl, fun m hm => ⟨ha m hm, ha.once hm⟩⟩
  · intro m hm
    exact hw.count_released_run calls hm
  · intro ms
    have hb : (w.run (calls ++ [.letGo, .others ms])).hub.bridge = none := by
      rw [run_append]
      exact bridge_letGo_eq_none _ ms
    refine ⟨hb, ?_⟩
    intro hh m hm
    have hc := hw.count_released_run (calls ++ [.letGo, .others ms]) hm
    simpa [Hub.resident, hb, hh] using hc

open Doubles

/-- A feed of stand-ins that was not started yet. -/
def idle : World StandIn :=
  ⟨.feed (.new ⟨fun _ => [], idleFactory false, .builtin, defaultJoinTimeout⟩ (Hub.idle .none)), []⟩

/-- A history in which the second release fails a poll, a third event is left to the stop, a fourth
one comes too late and goes back to its producer, and a fifth one is refused by the stopped feed. -/
def troubled : List Call :=
  [.start (properties []), .others [.enqueue (mutation 0 1), .enqueue (failingMutation 0 2)], .poll,
    .others [.enqueue (mutation 0 3)], .stop, .others [.enqueue (mutation 0 4)],
    .convert (failingMutation 0 5)]

/-- In the troubled history each of the five buffers is released once. -/
theorem released_exactly_once_troubled :
    idle.Fresh ∧
      ∀ m ∈ (idle.run (troubled ++ [.letGo, .others [.letGo 0]])).received,
        (released (idle.run (troubled ++ [.letGo, .others [.letGo 0]])).hub.journal).count m =
          1 := by
  have hw : idle.Fresh := .feed rfl rfl rfl
  refine ⟨hw, ?_⟩
  have hn : (idle.run (troubled ++ [.letGo, .others [.letGo 0]])).hub.handedBack = [] := by
    rw [← List.length_eq_zero_iff]
    decide +kernel
  have ho : ∀ m ∈ (idle.run (troubled ++ [.letGo, .others [.letGo 0]])).received,
      m.buffer.isSome ∧
        (idle.run (troubled ++ [.letGo, .others [.letGo 0]])).received.count m = 1 := by
    decide +kernel
  intro m hm
  obtain ⟨hb, hc⟩ := ho m hm
  exact (((released_exactly_once hw troubled).2.2 [.letGo 0]).2 hn m hb).trans hc

end ChangeFeed.World
