import ChangeFeed.Proofs.Bridge.Mirror
import Mathlib.Logic.Function.Basic

/-!
# One fault at a time

Producers contend for a slot that holds one fault. Who offers a fault is answered at once. Who
pushes one waits while the slot is taken, and it does not matter how long others have waited:
whoever tries first after the slot was cleared gets it. `Contest.Run` is such a contest, amidst all
else that is done at the bridge. What one bout keeps is `Fair`: the faults that were accepted are
those that were picked up and the one that was not, in order.
-/

namespace ChangeFeed

/-- What a producer was told about a fault that it handed over. -/
structure Answer where
  producer : Nat
  fault : String
  result : Except String Unit

namespace Answer

/-- The fault, with its producer. -/
def marked (a : Answer) : Nat × String :=
  (a.producer, a.fault)

/-- The fault, with its producer, if it was accepted. -/
def accepted? (a : Answer) : Option (Nat × String) :=
  match a.result with
  | .ok () => some a.marked
  | .error _ => none

end Answer

/-- A bridge in use, the fault that each producer waits to hand over, if it waits, and what became
of the other faults: the answers, in order, the faults that the owner picked up, and the fault that
it let go of with the bridge. -/
structure Contest where
  crossing : Crossing
  waiting : Nat → Option String
  answers : List Answer
  taken : List String
  discarded : List String

/-- What may be done next. A producer that waits may try again at any time, in vain or not. -/
inductive Bout where
  | turn (turn : Turn)
  | push (producer : Nat) (fault : String)
  | retry (producer : Nat)

/-- Whether a turn has nothing to do with faults, nor with who keeps the bridge. -/
def Turn.plain : Turn → Bool
  | offer _ _ | takeFault | close => false
  | _ => true

namespace Bout

/-- The fault that a producer begins to hand over, with the producer. -/
def attempt? : Bout → Option (Nat × String)
  | turn (.offer p text) | push p text => some (p, text)
  | _ => none

/-- Whether a fault is handed over or picked up. -/
def concernsFaults : Bout → Bool
  | turn (.offer _ _) | turn .takeFault | push _ _ | retry _ => true
  | turn _ => false

end Bout

/-- The faults that were handed over, in order, each with its producer. -/
def handovers (bouts : List Bout) : List (Nat × String) :=
  bouts.filterMap Bout.attempt?

/-- The faults that are handed over in bouts, bout by bout. -/
lemma handovers_cons (b : Bout) (bouts : List Bout) :
    handovers (b :: bouts) = b.attempt?.toList ++ handovers bouts := by
  rw [handovers, handovers, List.filterMap_cons]
  cases b.attempt? <;> rfl

/-- The faults of one producer, in order. -/
def faultsOf (p : Nat) (marked : List (Nat × String)) : List String :=
  (marked.filter (·.1 = p)).map Prod.snd

/-- The faults of a producer are those of the parts of a list. -/
lemma faultsOf_append (p : Nat) (as bs : List (Nat × String)) :
    faultsOf p (as ++ bs) = faultsOf p as ++ faultsOf p bs := by
  rw [faultsOf, List.filter_append, List.map_append]
  rfl

/-- The faults of a producer are in the order of the list. -/
lemma faultsOf_sublist (p : Nat) {as bs : List (Nat × String)} (h : as.Sublist bs) :
    (faultsOf p as).Sublist (faultsOf p bs) :=
  (h.filter _).map _

namespace Contest

/-- A new bridge. -/
def new : Contest :=
  { crossing := .new, waiting := fun _ => none, answers := [], taken := [], discarded := [] }

/-- The fault in the slot. -/
def slot (s : Contest) : List String :=
  s.crossing.wiring.faults.values

/-- The fault that was accepted and not picked up: it is in the slot, or went with the bridge. -/
def resident (s : Contest) : List String :=
  s.slot ++ s.discarded

/-- The faults that were answered, in order. -/
def answered (s : Contest) : List (Nat × String) :=
  s.answers.map Answer.marked

/-- The faults that were accepted, in order. -/
def accepted (s : Contest) : List (Nat × String) :=
  s.answers.filterMap Answer.accepted?

/-- The accepted faults that were picked up, in order. -/
def delivered (s : Contest) : List (Nat × String) :=
  s.accepted.take s.taken.length

/-- The contest at other channels. -/
def withWiring (s : Contest) (wiring : Wiring) : Contest :=
  { s with crossing := { s.crossing with wiring } }

/-- The contest with another fault in the slot, or with none. -/
def withSlot (s : Contest) (values : List String) : Contest :=
  s.withWiring (s.crossing.wiring.withFaults values)

/-- Tells a producer what became of its fault. -/
def answer (p : Nat) (text : String) (result : Except String Unit) (s : Contest) : Contest :=
  { s with answers := s.answers ++ [⟨p, text, result⟩] }

/-- Has a producer wait to hand over a fault, or no longer wait. -/
def await (p : Nat) (fault : Option String) (s : Contest) : Contest :=
  { s with waiting := Function.update s.waiting p fault }

/-- Hands over a fault if the slot is free. -/
def offer (p : Nat) (text : String) (s : Contest) : Contest :=
  match s.crossing.wiring.offer text with
  | (result, wiring) => (s.withWiring wiring).answer p text result

/-- Hands over a fault, or waits. -/
def push (p : Nat) (text : String) (s : Contest) : Contest :=
  match s.crossing.wiring.push text with
  | (some result, wiring) => ((s.withWiring wiring).answer p text result).await p none
  | (none, wiring) => (s.withWiring wiring).await p (some text)

/-- Picks up the fault. -/
def takeFault (s : Contest) : Contest :=
  match s.crossing.wiring.takeFault with
  | (fault, wiring) => { s.withWiring wiring with taken := s.taken ++ fault.toList }

/-- Lets go of the bridge, and of the fault in its slot. -/
def close (s : Contest) : Contest :=
  { s with
    crossing := s.crossing.close
    discarded := s.discarded ++ s.crossing.wiring.faults.dropSender.dropReceiver.1 }

/-- Takes a turn at the bridge. -/
def turn (s : Contest) : Turn → Contest
  | .offer p text => s.offer p text
  | .takeFault => s.takeFault
  | .close => s.close
  | t => { s with crossing := s.crossing.turn t }

/-- Whether a producer may hand over a fault. -/
def free (s : Contest) (p : Nat) : Bool :=
  p ∈ s.crossing.producers && (s.waiting p).isNone

/-- Who may do what: as at the bridge, but a producer that waits hands over no other fault and is
not dropped. Two threads that share a producer count as two producers. -/
def permits (s : Contest) : Bout → Bool
  | .turn (.offer p _) | .turn (.retire p) | .push p _ => s.free p
  | .turn t => s.crossing.permits t
  | .retry p => (s.waiting p).isSome

/-- Fights one bout. -/
def bout (s : Contest) : Bout → Contest
  | .turn t => s.turn t
  | .push p text => s.push p text
  | .retry p =>
    match s.waiting p with
    | none => s
    | some text => s.push p text

/-- Permitted bouts, one after the other. -/
inductive Run : Contest → List Bout → Contest → Prop where
  | nil {s} : Run s [] s
  | cons {s b bouts u} :
    s.permits b →
    Run (s.bout b) bouts u →
    Run s (b :: bouts) u

/-- A producer is free if it is there and waits for nothing. -/
lemma free_iff {s : Contest} {p : Nat} :
    s.free p ↔ p ∈ s.crossing.producers ∧ s.waiting p = none := by
  rw [free, Bool.and_eq_true, decide_eq_true_iff, Option.isNone_iff_eq_none]

/-- A producer that waits for the fault it waits for anyway changes nothing. -/
lemma await_self {s : Contest} {p : Nat} {fault : Option String} (h : s.waiting p = fault) :
    s.await p fault = s := by
  rw [await, ← h, Function.update_eq_self]

/-- An answer does not make a producer wait. -/
lemma await_answer (s : Contest) {p : Nat} {text : String} {result : Except String Unit}
    (h : s.waiting p = none) : (s.answer p text result).await p none = s.answer p text result := by
  have ha : (s.answer p text result).waiting p = none := h
  exact await_self ha

/-- A producer waits for what it was made to wait for. -/
lemma waiting_await_self (p : Nat) (fault : Option String) (s : Contest) :
    (s.await p fault).waiting p = fault := by
  simp [await]

/-- What other producers wait for is left. -/
lemma waiting_await_of_ne {p q : Nat} (h : q ≠ p) (fault : Option String) (s : Contest) :
    (s.await p fault).waiting q = s.waiting q := by
  simp [await, h]

/-- The bridge is as it should be, only producers that there are wait, the accepted faults are those
that were picked up and at most one that was not, and each refused fault went back as it was. -/
structure Fair (s : Contest) : Prop where
  orderly : s.crossing.Orderly
  named : ∀ p, s.waiting p ≠ none → p ∈ s.crossing.producers
  order : s.taken ++ s.resident = s.accepted.map Prod.snd
  kept : s.crossing.owned = true → s.discarded = []
  lost : s.crossing.owned = false → s.slot = []
  single : s.resident.length ≤ 1
  handedBack : ∀ a ∈ s.answers, ∀ back, a.result = .error back → back = a.fault

/-- At the outset the contest is fair. -/
lemma fair_new : new.Fair :=
  ⟨Crossing.orderly_new, nofun, rfl, fun _ => rfl, fun _ => rfl, Nat.zero_le 1, nofun⟩

namespace Fair

variable {s u : Contest} {p : Nat} {text : String}

/-- An offered fault is accepted if the bridge is open and its slot is free, and otherwise goes back
to its producer. -/
lemma offer_eq (hs : s.Fair) (p : Nat) (text : String) :
    s.offer p text = if s.crossing.owned = true ∧ s.slot = [] then
      (s.withSlot [text]).answer p text (.ok ()) else s.answer p text (.error text) := by
  rw [offer]
  obtain ho | ho := Bool.eq_false_or_eq_true s.crossing.owned
  · rw [(hs.orderly.held_open ho).offer_open, slot]
    by_cases hv : s.crossing.wiring.faults.values = []
    · rw [if_pos hv, if_pos ⟨ho, hv⟩]
      rfl
    · rw [if_neg hv, if_neg fun h => hv h.2]
      rfl
  · rw [(hs.orderly.held_closed ho).offer_closed, ho, if_neg (by simp)]
    rfl

/-- A pushed fault is refused only by a closed bridge, and it waits where the slot is taken. -/
lemma push_eq (hs : s.Fair) (p : Nat) (text : String) :
    s.push p text = if s.crossing.owned = false then (s.answer p text (.error text)).await p none
      else if s.slot = [] then ((s.withSlot [text]).answer p text (.ok ())).await p none
      else s.await p (some text) := by
  rw [push]
  obtain ho | ho := Bool.eq_false_or_eq_true s.crossing.owned
  · have hne : ¬ s.crossing.owned = false := by simp [ho]
    rw [(hs.orderly.held_open ho).push_open, if_neg hne, slot]
    by_cases hv : s.crossing.wiring.faults.values = []
    · rw [if_pos hv, if_pos hv]
      rfl
    · rw [if_neg hv, if_neg hv]
      rfl
  · rw [(hs.orderly.held_closed ho).push_closed, if_pos ho]
    rfl

/-- Picking up clears the slot. -/
lemma takeFault_eq (hs : s.Fair) :
    s.takeFault = { s.withSlot [] with taken := s.taken ++ s.slot } := by
  rw [takeFault]
  obtain ⟨hv, ht⟩ | ⟨text, rest, hv, ht⟩ := s.crossing.wiring.takeFault_cases
  · have hw : s.withSlot [] = s := by
      rw [withSlot, Wiring.withFaults, Channel.withValues, ← hv]
      rfl
    rw [ht, hw, slot, hv]
    rfl
  · have hl := hs.orderly.held.single
    rw [hv] at hl
    obtain rfl : rest = [] := List.length_eq_zero_iff.1 (Nat.le_zero.1 (Nat.le_of_succ_le_succ hl))
    rw [ht, slot, hv]
    rfl

/-- With the bridge goes the fault in its slot. -/
lemma close_eq (hs : s.Fair) (ho : s.crossing.owned = true) :
    s.close = { s with crossing := s.crossing.close, discarded := s.slot } ∧ s.close.slot = [] := by
  obtain ⟨hd, -, hv, -⟩ := (hs.orderly.held_open ho).faults.close
  refine ⟨?_, hv⟩
  rw [close, hd, hs.kept ho]
  rfl

/-- Refusing a fault keeps the contest fair. -/
lemma answer_error (hs : s.Fair) (p : Nat) (text : String) :
    (s.answer p text (.error text)).Fair := by
  refine { hs with order := ?_, handedBack := ?_ }
  · rw [accepted, answer, List.filterMap_append]
    exact hs.order.trans (congrArg _ (List.append_nil _).symm)
  · intro a ha back hb
    obtain ha | ha := List.mem_append.1 ha
    · exact hs.handedBack a ha back hb
    · obtain rfl := List.mem_singleton.1 ha
      cases hb
      rfl

/-- The slot may be filled that is free. -/
lemma orderly_withSlot (hs : s.Fair) (ho : s.crossing.owned = true) {values : List String}
    (hl : values.length ≤ 1) : (s.withSlot values).crossing.Orderly :=
  { hs.orderly with held := ho ▸ (hs.orderly.held_open ho).withFaults hl }

/-- Accepting a fault into the empty slot of an open bridge keeps the contest fair. -/
lemma answer_ok (hs : s.Fair) (ho : s.crossing.owned = true) (hv : s.slot = []) (p : Nat)
    (text : String) : ((s.withSlot [text]).answer p text (.ok ())).Fair := by
  have hd := hs.kept ho
  refine
    { hs with
      orderly := hs.orderly_withSlot ho (Nat.le_refl 1)
      order := ?_, lost := ?_, single := ?_, handedBack := ?_ }
  · have hq := hs.order
    rw [resident, hv, hd, List.append_nil, List.append_nil] at hq
    show s.taken ++ ([text] ++ s.discarded) = (List.filterMap _ (_ ++ _)).map _
    rw [hd, List.append_nil, List.filterMap_append, List.map_append, hq]
    rfl
  · intro hc
    cases ho.symm.trans hc
  · show ([text] ++ s.discarded).length ≤ 1
    rw [hd]
    exact Nat.le_refl 1
  · intro a ha back hb
    obtain ha | ha := List.mem_append.1 ha
    · exact hs.handedBack a ha back hb
    · obtain rfl := List.mem_singleton.1 ha
      cases hb

/-- Making a producer wait, or letting it off, keeps the contest fair. -/
lemma await (hs : s.Fair) (hp : p ∈ s.crossing.producers) (fault : Option String) :
    (s.await p fault).Fair := by
  refine { hs with named := ?_ }
  intro q hq
  obtain rfl | hne := eq_or_ne q p
  · exact hp
  · rw [waiting_await_of_ne hne] at hq
    exact hs.named q hq

/-- Offering a fault keeps the contest fair. -/
lemma offer (hs : s.Fair) (p : Nat) (text : String) : (s.offer p text).Fair := by
  rw [hs.offer_eq]
  split
  · rename_i h
    exact hs.answer_ok h.1 h.2 p text
  · exact hs.answer_error p text

/-- Pushing a fault keeps the contest fair. -/
lemma push (hs : s.Fair) (hp : p ∈ s.crossing.producers) (text : String) :
    (s.push p text).Fair := by
  rw [hs.push_eq]
  split
  · exact (hs.answer_error p text).await hp none
  · rename_i ho
    split
    · rename_i hv
      exact (hs.answer_ok (Bool.not_eq_false _ ▸ ho) hv p text).await hp none
    · exact hs.await hp (some text)

/-- Taking a fault keeps the contest fair. -/
lemma takeFault (hs : s.Fair) (ho : s.crossing.owned = true) : s.takeFault.Fair := by
  rw [hs.takeFault_eq]
  refine
    { hs with
      orderly := hs.orderly_withSlot ho (Nat.zero_le 1)
      order := ?_, lost := fun _ => rfl, single := ?_ }
  · show s.taken ++ s.slot ++ ([] ++ s.discarded) = s.accepted.map Prod.snd
    rw [List.nil_append, List.append_assoc]
    exact hs.order
  · show ([] ++ s.discarded).length ≤ 1
    rw [hs.kept ho]
    exact Nat.zero_le 1

/-- Closing the bridge keeps the contest fair. -/
lemma close (hs : s.Fair) (ho : s.crossing.owned = true) : s.close.Fair := by
  obtain ⟨he, hv⟩ := hs.close_eq ho
  have hr : s.close.resident = s.resident := by
    rw [resident, hv, he, resident, hs.kept ho, List.append_nil]
    rfl
  refine { hs with
    orderly := hs.orderly.close ho, order := ?_, kept := nofun, lost := fun _ => hv, single := ?_ }
  · rw [hr]
    exact hs.order
  · rw [hr]
    exact hs.single

end Fair

/-- A turn of a contest is a turn at its bridge. -/
lemma crossing_turn (s : Contest) (t : Turn) : (s.turn t).crossing = s.crossing.turn t := by
  cases t <;> rfl

/-- A plain turn changes the bridge only. -/
lemma turn_plain (s : Contest) {t : Turn} (ht : t.plain) :
    s.turn t = { s with crossing := s.crossing.turn t } := by
  cases t <;> first | rfl | cases ht

/-- What has nothing to do with faults leaves the slot as it is. -/
lemma slot_turn_plain {s : Crossing} (hs : s.Orderly) {t : Turn} (ht : t.plain) :
    (s.turn t).wiring.faults.values = s.wiring.faults.values ∧ (s.turn t).owned = s.owned := by
  cases t with
  | supply | clone p | retire p => exact ⟨rfl, rfl⟩
  | enqueue p e =>
    rw [Crossing.turn]
    obtain ho | ho := Bool.eq_false_or_eq_true s.owned
    · rw [hs.enqueue_eq ho]
      exact ⟨rfl, rfl⟩
    · rw [hs.enqueue_refused ho]
      exact ⟨rfl, rfl⟩
  | receive =>
    rw [Crossing.turn, Crossing.receive]
    obtain ⟨-, hd⟩ | ⟨e, rest, -, hd⟩ := s.wiring.dequeue_cases <;> rw [hd] <;> exact ⟨rfl, rfl⟩
  | drain =>
    rw [Crossing.turn, Crossing.drain, s.wiring.drain_eq]
    exact ⟨rfl, rfl⟩
  | offer p text | takeFault | close => cases ht

/-- What is permitted in a contest is permitted at the bridge. -/
lemma permits_turn {s : Contest} {t : Turn} (hp : s.permits (.turn t)) : s.crossing.permits t := by
  cases t with
  | offer p text | retire p => exact decide_eq_true (free_iff.1 hp).1
  | _ => exact hp

namespace Fair

variable {s u : Contest} {b : Bout}

/-- Producers that wait are not dropped. -/
lemma named_turn_plain (hs : s.Fair) {t : Turn} (ht : t.plain) (hp : s.permits (.turn t)) (p : Nat)
    (hw : s.waiting p ≠ none) : p ∈ (s.crossing.turn t).producers := by
  have hm := hs.named p hw
  cases t with
  | supply | clone q => exact List.mem_append_left _ hm
  | retire q =>
    obtain ⟨-, hq⟩ := free_iff.1 hp
    have hne : p ≠ q := fun h => hw (h ▸ hq)
    exact (List.mem_erase_of_ne hne).2 hm
  | enqueue q e =>
    rw [Crossing.turn, Crossing.enqueue]
    split <;> exact hm
  | receive =>
    rw [Crossing.turn, Crossing.receive]
    split <;> exact hm
  | drain => exact hm
  | offer q text | takeFault | close => cases ht

/-- A plain turn keeps the contest fair. -/
lemma turn_plain (hs : s.Fair) {t : Turn} (ht : t.plain) (hp : s.permits (.turn t)) :
    (s.turn t).Fair := by
  obtain ⟨hv, ho⟩ := slot_turn_plain hs.orderly ht
  have hr : Contest.resident { s with crossing := s.crossing.turn t } = s.resident :=
    congrArg (· ++ s.discarded) hv
  rw [s.turn_plain ht]
  refine
    { hs with
      orderly := hs.orderly.turn (permits_turn hp)
      named := hs.named_turn_plain ht hp
      order := ?_, kept := fun h => hs.kept (ho ▸ h), lost := fun h => hv.trans (hs.lost (ho ▸ h))
      single := ?_ }
  · rw [hr]
    exact hs.order
  · rw [hr]
    exact hs.single

/-- A permitted bout is fair. -/
lemma bout (hs : s.Fair) (hp : s.permits b) : (s.bout b).Fair := by
  cases b with
  | turn t =>
    cases t with
    | offer p text => exact hs.offer p text
    | takeFault => exact hs.takeFault hp
    | close => exact hs.close hp
    | _ => exact hs.turn_plain rfl hp
  | push p text => exact hs.push (free_iff.1 hp).1 text
  | retry p =>
    obtain ⟨text, hw⟩ := Option.isSome_iff_exists.1 hp
    have hm : p ∈ s.crossing.producers := hs.named p (by simp [hw])
    rw [Contest.bout, hw]
    exact hs.push hm text

/-- Bouts keep the contest fair. -/
lemma run {bouts : List Bout} (hs : s.Fair) (hr : Run s bouts u) : u.Fair := by
  induction hr with
  | nil => exact hs
  | cons hp _ ih => exact ih (hs.bout hp)

/-- What concerns faults only changes what is in the slot. -/
lemma quiet_push (hs : s.Fair) (p : Nat) (text : String) :
    ∃ faults, (s.push p text).crossing =
      { s.crossing with wiring := { s.crossing.wiring with faults } } := by
  rw [hs.push_eq]
  split
  · exact ⟨s.crossing.wiring.faults, rfl⟩
  · split
    · exact ⟨s.crossing.wiring.faults.withValues [text], rfl⟩
    · exact ⟨s.crossing.wiring.faults, rfl⟩

/-- What is about faults changes the slot of the bridge only. -/
lemma quiet (hs : s.Fair) (hb : b.concernsFaults) :
    ∃ faults, (s.bout b).crossing =
      { s.crossing with wiring := { s.crossing.wiring with faults } } := by
  cases b with
  | turn t =>
    cases t with
    | offer p text =>
      rw [Contest.bout, Contest.turn, hs.offer_eq]
      split
      · exact ⟨s.crossing.wiring.faults.withValues [text], rfl⟩
      · exact ⟨s.crossing.wiring.faults, rfl⟩
    | takeFault =>
      rw [Contest.bout, Contest.turn, hs.takeFault_eq]
      exact ⟨s.crossing.wiring.faults.withValues [], rfl⟩
    | _ => cases hb
  | push p text => exact hs.quiet_push p text
  | retry p =>
    rw [Contest.bout]
    cases s.waiting p with
    | none => exact ⟨s.crossing.wiring.faults, rfl⟩
    | some text => exact hs.quiet_push p text

/-- At the bridge a push is an offer that is made when it is accepted. -/
lemma crosses_push (hs : s.Fair) {p : Nat} (hp : p ∈ s.crossing.producers) (text : String) :
    ∃ turns, Crossing.Run s.crossing turns (s.push p text).crossing := by
  rw [hs.push_eq]
  split
  · exact ⟨[], .nil⟩
  · rename_i ho
    split
    · rename_i hv
      have he := (hs.orderly.held_open (Bool.not_eq_false _ ▸ ho)).offer_open text
      rw [slot] at hv
      rw [if_pos hv] at he
      refine ⟨[.offer p text], .cons (decide_eq_true hp) ?_⟩
      rw [Crossing.turn, he]
      exact .nil
    · exact ⟨[], .nil⟩

/-- A bout is made of turns at the bridge. -/
lemma crosses_bout (hs : s.Fair) (hp : s.permits b) :
    ∃ turns, Crossing.Run s.crossing turns (s.bout b).crossing := by
  cases b with
  | turn t =>
    refine ⟨[t], .cons (permits_turn hp) ?_⟩
    rw [Contest.bout, crossing_turn]
    exact .nil
  | push p text => exact hs.crosses_push (free_iff.1 hp).1 text
  | retry p =>
    obtain ⟨text, hw⟩ := Option.isSome_iff_exists.1 hp
    have hm : p ∈ s.crossing.producers := hs.named p (by simp [hw])
    rw [Contest.bout, hw]
    exact hs.crosses_push hm text

/-- What a contest comes to at the bridge is a run there. -/
lemma crosses {bouts : List Bout} (hs : s.Fair) (hr : Run s bouts u) :
    ∃ turns, Crossing.Run s.crossing turns u.crossing := by
  induction hr with
  | nil => exact ⟨[], .nil⟩
  | cons hp _ ih =>
    obtain ⟨turns, ht⟩ := hs.crosses_bout hp
    obtain ⟨more, hm⟩ := ih (hs.bout hp)
    exact ⟨turns ++ more, ht.append hm⟩

end Fair

/-- The faults of a producer that it began to hand over: those that were answered, and the one for
which it waits. -/
def begun (s : Contest) (p : Nat) : List String :=
  faultsOf p s.answered ++ (s.waiting p).toList

/-- The fault that is answered for was begun by its producer, and leaves it free. -/
lemma begun_settled (s : Contest) (p q : Nat) (text : String) (result : Except String Unit) :
    ((s.answer q text result).await q none).begun p =
      faultsOf p s.answered ++ if p = q then [text] else (s.waiting p).toList := by
  have ha : ((s.answer q text result).await q none).answered = s.answered ++ [(q, text)] :=
    List.map_append
  rw [begun, ha, faultsOf_append]
  obtain rfl | hne := eq_or_ne p q
  · rw [waiting_await_self, if_pos rfl, Option.toList_none, List.append_nil]
    simp [faultsOf]
  · have hn : faultsOf p [(q, text)] = [] := by simp [faultsOf, hne.symm]
    rw [waiting_await_of_ne hne, if_neg hne, hn, List.append_nil]
    rfl

/-- The fault that a producer is made to wait for was begun by it. -/
lemma begun_awaiting (s : Contest) (p q : Nat) (text : String) :
    (s.await q (some text)).begun p =
      faultsOf p s.answered ++ if p = q then [text] else (s.waiting p).toList := by
  rw [begun]
  obtain rfl | hne := eq_or_ne p q
  · rw [waiting_await_self, if_pos rfl]
    rfl
  · rw [waiting_await_of_ne hne, if_neg hne]
    rfl

/-- A producer that does not wait begins to hand over another fault. -/
lemma begun_next {s : Contest} {q : Nat} (hq : s.waiting q = none) (p : Nat) (text : String) :
    (faultsOf p s.answered ++ if p = q then [text] else (s.waiting p).toList) =
      s.begun p ++ faultsOf p [(q, text)] := by
  rw [begun, List.append_assoc]
  obtain rfl | hne := eq_or_ne p q
  · simp [faultsOf, hq]
  · simp [faultsOf, hne, hne.symm]

/-- A producer that waits goes on with its fault. -/
lemma begun_again {s : Contest} {q : Nat} {text : String} (hq : s.waiting q = some text) (p : Nat) :
    (faultsOf p s.answered ++ if p = q then [text] else (s.waiting p).toList) = s.begun p := by
  rw [begun]
  obtain rfl | hne := eq_or_ne p q
  · rw [if_pos rfl, hq]
    rfl
  · rw [if_neg hne]

namespace Fair

variable {s u : Contest} {b : Bout}

/-- Pushing a fault begins it, be it answered for or not. -/
lemma begun_push (hs : s.Fair) (p q : Nat) (text : String) :
    (s.push q text).begun p =
      faultsOf p s.answered ++ if p = q then [text] else (s.waiting p).toList := by
  rw [hs.push_eq]
  split
  · exact s.begun_settled p q text _
  · split
    · exact (s.withSlot [text]).begun_settled p q text _
    · exact s.begun_awaiting p q text

/-- Offering a fault begins it, and it is answered for at once. -/
lemma begun_offer (hs : s.Fair) {q : Nat} (hq : s.waiting q = none) (p : Nat) (text : String) :
    (s.offer q text).begun p =
      faultsOf p s.answered ++ if p = q then [text] else (s.waiting p).toList := by
  rw [hs.offer_eq]
  split
  · rw [← await_answer (s.withSlot [text]) hq]
    exact (s.withSlot [text]).begun_settled p q text _
  · rw [← await_answer s hq]
    exact s.begun_settled p q text _

/-- A producer hands over one fault after the other. -/
lemma begun_bout (hs : s.Fair) (hp : s.permits b) (p : Nat) :
    (s.bout b).begun p = s.begun p ++ faultsOf p b.attempt?.toList := by
  cases b with
  | turn t =>
    cases t with
    | offer q text =>
      obtain ⟨-, hq⟩ := free_iff.1 hp
      exact (hs.begun_offer hq p text).trans (begun_next hq p text)
    | _ => exact (List.append_nil _).symm
  | push q text => exact (hs.begun_push p q text).trans (begun_next (free_iff.1 hp).2 p text)
  | retry q =>
    obtain ⟨text, hw⟩ := Option.isSome_iff_exists.1 hp
    have hn : faultsOf p (Bout.retry q).attempt?.toList = [] := rfl
    rw [Contest.bout, hw, hn, List.append_nil]
    exact (hs.begun_push p q text).trans (begun_again hw p)

/-- The faults that a producer began are those that it handed over, in order. -/
lemma begun_run {bouts : List Bout} (hs : s.Fair) (hr : Run s bouts u) (p : Nat) :
    u.begun p = s.begun p ++ faultsOf p (handovers bouts) := by
  induction hr with
  | nil => exact (List.append_nil _).symm
  | cons hp _ ih =>
    rw [ih (hs.bout hp), hs.begun_bout hp, handovers_cons, faultsOf_append, List.append_assoc]

end Fair

/-- What the fault slot promises at any point of a contest. -/
structure Promises (bouts : List Bout) (s : Contest) : Prop where
  single : s.slot.length ≤ 1
  /-- No accepted fault is lost, doubled or overtaken. -/
  order : s.taken ++ s.resident = s.accepted.map Prod.snd
  /-- What was not picked up is in the slot, or went with the bridge; and that is one fault at
  most. -/
  resident : s.resident.length ≤ 1 ∧ (s.crossing.owned = true → s.resident = s.slot) ∧
    (s.crossing.owned = false → s.resident = s.discarded)
  /-- Each producer's faults are answered in the order in which it handed them over, and those of
  them that are accepted are picked up in that order. -/
  own : ∀ p, faultsOf p s.answered ++ (s.waiting p).toList = faultsOf p (handovers bouts) ∧
    (faultsOf p s.accepted).Sublist (faultsOf p (handovers bouts))
  delivered : s.delivered.map Prod.snd = s.taken ∧
    ∀ p, faultsOf p s.delivered <+: faultsOf p s.accepted
  /-- What is refused goes back as it was. -/
  handedBack : ∀ a ∈ s.answers, ∀ back, a.result = .error back → back = a.fault
  /-- An offered fault is accepted exactly if the bridge is open and the slot is free. -/
  offers : ∀ p text, s.bout (.turn (.offer p text)) =
    if s.crossing.owned = true ∧ s.slot = [] then (s.withSlot [text]).answer p text (.ok ())
    else s.answer p text (.error text)
  /-- A pushed fault is refused only by a closed bridge and accepted only where the slot is free;
  else it waits. -/
  pushes : ∀ p text, s.waiting p = none → s.bout (.push p text) =
    if s.crossing.owned = false then s.answer p text (.error text)
    else if s.slot = [] then (s.withSlot [text]).answer p text (.ok ())
    else s.await p (some text)
  /-- Whoever waits may try again at any time, and goes on waiting where the slot is taken. -/
  retries : ∀ p text, s.waiting p = some text → s.permits (.retry p) ∧ s.bout (.retry p) =
    if s.crossing.owned = false then (s.answer p text (.error text)).await p none
    else if s.slot = [] then ((s.withSlot [text]).answer p text (.ok ())).await p none
    else s
  picksUp : s.bout (.turn .takeFault) = { s.withSlot [] with taken := s.taken ++ s.slot }
  /-- With the bridge goes the fault in its slot, and whoever waits goes on waiting until its next
  try. -/
  closes : s.crossing.owned = true → s.bout (.turn .close) =
    { s with crossing := s.crossing.close, discarded := s.slot } ∧
      (s.bout (.turn .close)).slot = [] ∧ (s.bout (.turn .close)).crossing.owned = false
  /-- Nothing that is done with faults changes the events, or the producers. -/
  quiet : ∀ b, b.concernsFaults → ∃ faults, (s.bout b).crossing =
    { s.crossing with wiring := { s.crossing.wiring with faults } }
  /-- Nothing else changes the slot, but letting go of the bridge. -/
  plain : ∀ t, t.plain → s.bout (.turn t) = { s with crossing := s.crossing.turn t } ∧
    (s.bout (.turn t)).slot = s.slot
  /-- What is done at the bridge is a run there, and a hub at which the same is done has the fault
  in its slot. -/
  mirrored : ∀ redaction, ∃ turns, Crossing.Run .new turns s.crossing ∧
    s.crossing.Mirrors (Hub.followAll turns (Hub.idle redaction).openBridge)

namespace Fair

variable {s : Contest}

/-- What was picked up is the beginning of what was accepted. -/
lemma delivered (hs : s.Fair) : s.delivered.map Prod.snd = s.taken ∧
    ∀ p, faultsOf p s.delivered <+: faultsOf p s.accepted := by
  refine ⟨?_, ?_⟩
  · rw [Contest.delivered, List.map_take, ← hs.order, List.take_left]
  · intro p
    have hd : s.delivered ++ s.accepted.drop s.taken.length = s.accepted :=
      List.take_append_drop _ _
    exact ⟨_, (faultsOf_append p _ _).symm.trans (congrArg _ hd)⟩

end Fair

/-- What was accepted was answered for, in the same order. -/
lemma accepted_sublist_answered (s : Contest) : s.accepted.Sublist s.answered := by
  rw [accepted, answered]
  induction s.answers with
  | nil => exact .slnil
  | cons a rest ih =>
    obtain ⟨p, text, result⟩ := a
    cases result with
    | error back => exact ih.cons _
    | ok u => exact ih.cons_cons _

/-- However many producers contend for the slot, and whoever is next, the slot keeps
its promises. -/
theorem faults_in_order {bouts : List Bout} {s : Contest} (hr : Run new bouts s) :
    Promises bouts s := by
  have hs := fair_new.run hr
  obtain ⟨turns, ht⟩ := fair_new.crosses hr
  have hbegun : ∀ p, s.begun p = faultsOf p (handovers bouts) := fair_new.begun_run hr
  refine
    { single := hs.orderly.held.single, order := hs.order, resident := ?_, own := ?_
      delivered := hs.delivered, handedBack := hs.handedBack, offers := hs.offer_eq, pushes := ?_
      retries := ?_, picksUp := hs.takeFault_eq, closes := ?_, quiet := fun _ => hs.quiet
      plain := ?_, mirrored := ?_ }
  · refine ⟨hs.single, ?_, ?_⟩
    · intro ho
      rw [resident, hs.kept ho, List.append_nil]
    · intro ho
      rw [resident, hs.lost ho, List.nil_append]
  · intro p
    refine ⟨hbegun p, ?_⟩
    have hsub := faultsOf_sublist p s.accepted_sublist_answered
    rw [← hbegun p]
    exact hsub.trans (List.sublist_append_left _ _)
  · intro p text hw
    have hopen : ((s.withSlot [text]).answer p text (.ok ())).await p none =
        (s.withSlot [text]).answer p text (.ok ()) := await_answer _ hw
    rw [bout, hs.push_eq, await_answer s hw, hopen]
  · intro p text hw
    refine ⟨by simp [permits, hw], ?_⟩
    rw [bout, hw]
    exact (hs.push_eq p text).trans (by rw [await_self hw])
  · intro ho
    obtain ⟨he, hv⟩ := hs.close_eq ho
    exact ⟨he, hv, rfl⟩
  · intro t ht
    refine ⟨s.turn_plain ht, ?_⟩
    rw [bout, s.turn_plain ht]
    exact (slot_turn_plain hs.orderly ht).1
  · intro redaction
    exact ⟨turns, ht, (Crossing.mirrors_new redaction).run Crossing.orderly_new ht⟩

/-- Two producers contend for the slot: the first gets it, the second waits, tries again after the
slot was cleared, and gets it before the first does, which waits until the bridge is gone. -/
def contested : List Bout :=
  [.turn .supply, .turn (.clone 0), .push 0 "first", .push 1 "second", .turn (.offer 0 "third"),
    .turn .takeFault, .retry 1, .push 0 "fourth", .retry 0, .turn .close, .retry 0]

/-- In the contested run two faults are accepted, of which one went with the bridge. -/
theorem faults_in_order_contested :
    ∃ s, Run new contested s ∧ s.taken = ["first"] ∧ s.discarded = ["second"] ∧
      s.accepted = [(0, "first"), (1, "second")] ∧
      faultsOf 0 s.answered = ["first", "third", "fourth"] := by
  have hr : Run new contested (contested.foldl bout new) := by
    repeat' constructor
  have hp := faults_in_order hr
  refine ⟨_, hr, rfl, ?_, rfl, ?_⟩
  · have ho := hp.order
    rw [hp.resident.2.2 rfl] at ho
    exact (List.cons_inj_right "first").1 ho
  · have hw := (hp.own 0).1
    exact (List.append_nil _).symm.trans hw

end Contest

end ChangeFeed
