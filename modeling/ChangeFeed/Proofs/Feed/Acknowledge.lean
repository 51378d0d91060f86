import ChangeFeed.Proofs.Feed.Passage
import ChangeFeed.Proofs.Feed.Release

/-!
# Which events are acknowledged

Over a whole history, with failing polls, refused conversions, repeated stops and acknowledgements
that hand over further events, an event is acknowledged exactly if it was processed and neither the
filter nor the source handler failed on it. Every event that was ever handed over made a passage,
was refused by a closed bridge, or still waits, and it did so as often as it was handed over.
-/

namespace ChangeFeed

/-- What is in one of four places once is not in two of them. -/
lemma once_of_count_eq_one [DecidableEq Event] {e : Event} {a b c d : Multiset Event}
    (hone : (a + b + (c + d)).count e = 1) :
    a.count e ≤ 1 ∧ (e ∈ a → e ∉ b ∧ e ∉ c ∧ e ∉ d) := by
  rw [Multiset.count_add, Multiset.count_add, Multiset.count_add] at hone
  refine ⟨by omega, ?_⟩
  intro he
  rw [← Multiset.count_pos] at he
  simp only [← Multiset.count_pos]
  omega

namespace World

variable {ρ : Type} {w : World ρ}

/-- When life begins nothing waits, and nothing was converted. -/
lemma Fresh.resident (hw : w.Fresh) : w.hub.resident = [] ∧ w.converted = [] := by
  cases hw with
  | feed hb _ _ => exact ⟨Hub.resident_eq_nil hb, rfl⟩
  | bridge hb _ _ => exact ⟨by simp [hub, Hub.resident, hb, Bridge.empty], rfl⟩

/-- From the beginning on, the journal is what was noted since, and what was given to the feed is
what it converted. -/
lemma Fresh.handles_run [Reader ρ] (hw : w.Fresh) (calls : List Call) :
    w.hub.since (w.run calls).hub = (w.run calls).hub.journal ∧
      Hub.Handles (w.run calls).converted (w.passages calls) w.hub (w.run calls).hub := by
  obtain ⟨given, hc, hh⟩ := World.handles_run hw.unopened calls
  rw [hw.resident.2, Multiset.coe_nil, add_zero] at hc
  have hs : w.hub.since (w.run calls).hub = (w.run calls).hub.journal := by
    rw [Hub.since, hw.journal]
    rfl
  exact ⟨hs, hc ▸ hh⟩

/-- Every event that was handed over, to a bridge or to be converted, made a passage, was refused,
or still waits. -/
lemma Fresh.ledger [Reader ρ] (hw : w.Fresh) (calls : List Call) :
    (offered (w.run calls).hub.journal : Multiset Event) + (w.run calls).converted =
      (w.passages calls).map Passage.event +
        (refused (w.run calls).hub.journal + (w.run calls).hub.resident) := by
  obtain ⟨hs, hh⟩ := hw.handles_run calls
  have hq := hh.queue
  rw [Hub.arrivals, hs, hw.resident.1, List.nil_append] at hq
  calc (offered (w.run calls).hub.journal : Multiset Event) + (w.run calls).converted
      = refused (w.run calls).hub.journal +
          ((w.run calls).converted + accepted (w.run calls).hub.journal) := by
        rw [coe_offered]
        abel
    _ = (w.passages calls).map Passage.event +
          (refused (w.run calls).hub.journal + (w.run calls).hub.resident) := by
        rw [hq]
        abel

/-- The release of an acknowledged message comes after the acknowledgement, and nowhere else if the
message was received once. -/
lemma Fresh.released_after_acknowledged [Reader ρ] (hw : w.Fresh) (calls : List Call)
    {before after : List Entry} {e : Event}
    (hj : (w.run calls).hub.journal = before ++ .acknowledged e :: after)
    (hm : e.message.buffer.isSome) :
    e.message ∈ released after ∧
      ((w.run calls).received.count e.message = 1 → e.message ∉ released before) := by
  obtain ⟨hs, hh⟩ := hw.handles_run calls
  have hf := hh.followed
  rw [hs, hj] at hf
  have hafter := hf.mem_released hm
  refine ⟨hafter, ?_⟩
  intro hone hbefore
  have hsplit : released (w.run calls).hub.journal = released before ++ released after := by
    rw [hj]
    exact released_append before (.acknowledged e :: after)
  -- a release before and one after would be two, and the message was received once
  have hcount := hw.count_released_run calls hm
  have h1 := List.count_pos_iff.2 hbefore
  have h2 := List.count_pos_iff.2 hafter
  rw [hsplit, List.count_append, hone] at hcount
  omega

open Classical in
/-- Over a whole history the events acknowledged are those of the passages whose assembler converts
the event, in the order of the passages. Every event that was handed over made a passage, was
refused or still waits, and of one that was handed over once only one of these is the case: it is
acknowledged at most once, and not if it was refused, if it waits, or if it made a passage in which
its conversion failed or nothing processed it. The release of an acknowledged message comes after
the acknowledgement. In the journal of a poll the effects of the events that it takes form blocks,
one after the other. -/
theorem acknowledged_when_converted [Reader ρ] (hw : w.Fresh) (calls : List Call) :
    acknowledged (w.run calls).hub.journal = Passage.acknowledged (w.passages calls) ∧
    (offered (w.run calls).hub.journal : Multiset Event) + (w.run calls).converted =
      (w.passages calls).map Passage.event +
        (refused (w.run calls).hub.journal + (w.run calls).hub.resident) ∧
    (∀ e, ((offered (w.run calls).hub.journal : Multiset Event) +
        (w.run calls).converted).count e = 1 →
      (acknowledged (w.run calls).hub.journal).count e ≤ 1 ∧
      (e ∈ acknowledged (w.run calls).hub.journal →
        e ∉ refused (w.run calls).hub.journal ∧ e ∉ (w.run calls).hub.resident ∧
        ∀ p ∈ w.passages calls, p.event = e → p.acknowledges)) ∧
    (∀ before e after,
      (w.run calls).hub.journal = before ++ .acknowledged e :: after → e.message.buffer.isSome →
      e.message ∈ released after ∧
      ((w.run calls).received.count e.message = 1 → e.message ∉ released before)) ∧
    (∀ (a : Assembler) (h : Hub), ∃ own,
      Woven (Entry.ByHolder (h.handedBack ++ kept (h.since (a.poll h).2))) own
        (h.since (a.poll h).2) ∧
      a.Blocks h.bridge.isSome (taken (h.since (a.poll h).2)) own) := by
  obtain ⟨hs, hh⟩ := hw.handles_run calls
  have hacknowledged : acknowledged (w.run calls).hub.journal =
      Passage.acknowledged (w.passages calls) := hs ▸ hh.acknowledged
  refine ⟨hacknowledged, hw.ledger calls, ?_, ?_, ?_⟩
  · intro e hone
    rw [hw.ledger calls, ← Passage.coe_acknowledged_add] at hone
    obtain ⟨hle, helse⟩ := once_of_count_eq_one hone
    rw [hacknowledged]
    refine ⟨by simpa using hle, ?_⟩
    intro he
    obtain ⟨hpassed, hrefused, hresident⟩ := helse (Multiset.mem_coe.2 he)
    refine ⟨fun h => hrefused h, fun h => hresident h, ?_⟩
    rintro p hp rfl
    by_contra hn
    exact hpassed (Passage.mem_passedOver hp hn)
  · intro before e after hj hm
    exact hw.released_after_acknowledged calls hj hm
  · intro a h
    exact a.blocks_poll h

open Doubles

/-- A history in which acknowledging the first event hands over a third one, the second event cannot
be released, the third one is left to the stop, and a fourth one is refused by the stopped feed. -/
def reentrant : List Call :=
  [.start (properties []),
    .others [.enqueue { mutation 0 1 with hooks := [.enqueue (mutation 0 3)] },
      .enqueue (failingMutation 0 2)],
    .poll, .stop, .convert (mutation 0 4)]

/-- In the reentrant history four events make a passage and two are acknowledged, the one that
cannot be released among them. -/
theorem acknowledged_when_converted_reentrant :
    idle.Fresh ∧
      (idle.passages reentrant).map (·.event.message.seqno) = [1, 2, 3, 4] ∧
      (acknowledged (idle.run reentrant).hub.journal).map (·.message.seqno) = [1, 2] := by
  have hw : idle.Fresh := .feed rfl rfl rfl
  refine ⟨hw, by decide +kernel, ?_⟩
  rw [(acknowledged_when_converted hw reentrant).1]
  decide +kernel

end World

end ChangeFeed
