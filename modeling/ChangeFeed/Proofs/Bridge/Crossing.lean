import ChangeFeed.Proofs.Bridge.Wiring
import Mathlib.Data.List.Nodup

/-!
# Events cross a bridge in order

An owner and any number of producers share a bridge. Producers are handed out, cloned and dropped,
all of them if need be; they hand over events and faults, the owner takes events and lets go of the
bridge, and any of them may be next. `Crossing.Run` is such a run, turn by turn. What one turn keeps
is `Orderly`: what was taken, what waits and what was let go of with the bridge is what was
accepted, in that order.
-/

namespace ChangeFeed

/-- A bridge in use: its channels, whether its owner still keeps it, the producers that there are,
named by numbers, and how many there have been. Besides, what became of the events: from which
producer each was accepted or refused, which were taken by the owner, and which were let go of with
the bridge. -/
structure Crossing where
  wiring : Wiring
  owned : Bool
  producers : List Nat
  issued : Nat
  accepted : List (Nat × Event)
  refused : List (Nat × Event)
  taken : List Event
  discarded : List Event

/-- What may be done next. Receiving one event is a wait of the owner, or one round of a drain with
which producers interfere. -/
inductive Turn where
  | supply
  | clone (producer : Nat)
  | retire (producer : Nat)
  | enqueue (producer : Nat) (event : Event)
  | offer (producer : Nat) (fault : String)
  | receive
  | takeFault
  | drain
  | close

/-- What a producer hands over at its turn. -/
def Turn.enqueued? : Turn → Option (Nat × Event)
  | enqueue p e => some (p, e)
  | _ => none

namespace Crossing

/-- A new bridge, of which no producer was handed out yet. -/
def new : Crossing :=
  { wiring := .new, owned := true, producers := [], issued := 0
    accepted := [], refused := [], taken := [], discarded := [] }

/-- The events that wait. -/
def resident (s : Crossing) : List Event :=
  s.wiring.events.values

/-- Hands out a producer under a number that none had before. -/
def join (s : Crossing) : Crossing :=
  { s with
    wiring := s.wiring.addProducer
    producers := s.producers ++ [s.issued]
    issued := s.issued + 1 }

/-- Drops a producer. -/
def retire (p : Nat) (s : Crossing) : Crossing :=
  { s with wiring := s.wiring.dropProducer, producers := s.producers.erase p }

/-- Hands an event to the bridge. -/
def enqueue (p : Nat) (e : Event) (s : Crossing) : Crossing :=
  match s.wiring.enqueue e with
  | (.ok (), wiring) => { s with wiring, accepted := s.accepted ++ [(p, e)] }
  | (.error back, wiring) => { s with wiring, refused := s.refused ++ [(p, back)] }

/-- Receives one event, if one waits. -/
def receive (s : Crossing) : Crossing :=
  match s.wiring.dequeue with
  | (none, wiring) => { s with wiring }
  | (some e, wiring) => { s with wiring, taken := s.taken ++ [e] }

/-- Takes the events that wait. -/
def drain (s : Crossing) : Crossing :=
  { s with wiring := s.wiring.drain.2, taken := s.taken ++ s.wiring.drain.1 }

/-- Lets go of the bridge. -/
def close (s : Crossing) : Crossing :=
  { s with
    wiring := s.wiring.close.2
    owned := false
    discarded := s.discarded ++ s.wiring.close.1 }

/-- Who may do what: a producer that was not dropped, and the owner unless it let go of the
bridge. -/
def permits (s : Crossing) : Turn → Bool
  | .supply | .receive | .takeFault | .drain | .close => s.owned
  | .clone p | .retire p | .enqueue p _ | .offer p _ => p ∈ s.producers

/-- Takes a turn. -/
def turn (s : Crossing) : Turn → Crossing
  | .supply | .clone _ => s.join
  | .retire p => s.retire p
  | .enqueue p e => s.enqueue p e
  | .offer _ text => { s with wiring := (s.wiring.offer text).2 }
  | .receive => s.receive
  | .takeFault => { s with wiring := s.wiring.takeFault.2 }
  | .drain => s.drain
  | .close => s.close

/-- Permitted turns, one after the other. -/
inductive Run : Crossing → List Turn → Crossing → Prop where
  | nil {s} : Run s [] s
  | cons {s t turns u} :
    s.permits t →
    Run (s.turn t) turns u →
    Run s (t :: turns) u

/-- Turns after turns. -/
lemma Run.append {s u v : Crossing} {turns more : List Turn} (h : Run s turns u)
    (k : Run u more v) : Run s (turns ++ more) v := by
  induction h with
  | nil => exact k
  | cons hp _ ih => exact .cons hp (ih k)

/-- What is received is what has waited longest. -/
lemma receive_eq (s : Crossing) :
    s.receive.taken = s.taken ++ s.resident.take 1 ∧ s.receive.resident = s.resident.drop 1 := by
  unfold receive resident
  obtain ⟨hv, hd⟩ | ⟨e, rest, hv, hd⟩ := s.wiring.dequeue_cases
  · rw [hd, hv]
    exact ⟨(List.append_nil s.taken).symm, rfl⟩
  · rw [hd, hv]
    exact ⟨rfl, rfl⟩

/-- A drain leaves nothing. -/
lemma drain_eq (s : Crossing) :
    s.drain.taken = s.taken ++ s.resident ∧ s.drain.resident = [] := by
  rw [drain, s.wiring.drain_eq]
  exact ⟨rfl, rfl⟩

/-- The ends are held as they should be, every producer has a name of its own, and what became of
the accepted events is told in the order in which they were accepted. Only when the owner is gone
events are refused or were let go of. -/
structure Orderly (s : Crossing) : Prop where
  held : s.wiring.Held s.owned s.producers.length
  nodup : s.producers.Nodup
  named : ∀ p ∈ s.producers, p < s.issued
  order : s.taken ++ s.resident ++ s.discarded = s.accepted.map Prod.snd
  refused : s.owned = true → s.refused = []
  discarded : s.owned = true → s.discarded = []

/-- At the outset all is in order. -/
lemma orderly_new : new.Orderly :=
  ⟨Wiring.held_new, .nil, nofun, rfl, fun _ => rfl, fun _ => rfl⟩

namespace Orderly

variable {s : Crossing} {p : Nat} {e : Event}

/-- Another producer leaves all in order. -/
lemma join (hs : s.Orderly) : s.join.Orderly := by
  refine { hs with held := ?_, nodup := ?_, named := ?_ }
  · have hl : s.join.producers.length = s.producers.length + 1 := List.length_append
    rw [hl]
    exact hs.held.addProducer
  · have hn : s.issued ∉ s.producers := fun hm => Nat.lt_irrefl _ (hs.named _ hm)
    have hc := hs.nodup.concat hn
    rw [List.concat_eq_append] at hc
    exact hc
  · intro q hq
    obtain hq | hq := List.mem_append.1 hq
    · exact Nat.lt_succ_of_lt (hs.named q hq)
    · rw [List.mem_singleton.1 hq]
      exact Nat.lt_succ_self _

/-- A producer that leaves leaves all in order. -/
lemma retire (hs : s.Orderly) (hp : p ∈ s.producers) : (s.retire p).Orderly := by
  have hl : s.producers.length = (s.producers.erase p).length + 1 := by
    rw [List.length_erase_of_mem hp, Nat.sub_add_cancel (List.length_pos_of_mem hp)]
  refine { hs with held := ?_, nodup := hs.nodup.erase p, named := ?_ }
  · have hh := hs.held
    rw [hl] at hh
    exact hh.dropProducer
  · intro q hq
    exact hs.named q (List.mem_of_mem_erase hq)

/-- The ends stay as they are, and other events wait. -/
lemma held_withEvents (hs : s.Orderly) (ho : s.owned = true) (values : List Event) :
    (s.wiring.withEvents values).Held s.owned s.producers.length := by
  have hh := hs.held
  rw [ho] at hh ⊢
  exact hh.withEvents values

/-- An open bridge holds its ends, and so does each producer. -/
lemma held_open (hs : s.Orderly) (ho : s.owned = true) :
    s.wiring.Held true s.producers.length :=
  ho ▸ hs.held

/-- When the bridge is closed only the producers hold theirs. -/
lemma held_closed (hs : s.Orderly) (ho : s.owned = false) :
    s.wiring.Held false s.producers.length :=
  ho ▸ hs.held

/-- While the owner keeps the bridge an event joins the end of the queue. -/
lemma enqueue_eq (hs : s.Orderly) (ho : s.owned = true) (p : Nat) (e : Event) :
    s.enqueue p e = { s with
      wiring := s.wiring.withEvents (s.resident ++ [e])
      accepted := s.accepted ++ [(p, e)] } := by
  rw [Crossing.enqueue, (hs.held_open ho).enqueue_open]
  rfl

/-- Afterwards the event is handed back, and nothing else happens. -/
lemma enqueue_refused (hs : s.Orderly) (ho : s.owned = false) (p : Nat) (e : Event) :
    s.enqueue p e = { s with refused := s.refused ++ [(p, e)] } := by
  rw [Crossing.enqueue, (hs.held_closed ho).enqueue_closed]

/-- Handing over an event leaves all in order. -/
lemma enqueue (hs : s.Orderly) (p : Nat) (e : Event) : (s.enqueue p e).Orderly := by
  obtain ho | ho := Bool.eq_false_or_eq_true s.owned
  · rw [hs.enqueue_eq ho]
    refine { hs with held := hs.held_withEvents ho _, order := ?_ }
    have hd := hs.order
    rw [hs.discarded ho, List.append_nil] at hd
    show s.taken ++ (s.resident ++ [e]) ++ s.discarded = (s.accepted ++ [(p, e)]).map Prod.snd
    rw [hs.discarded ho, List.append_nil, ← List.append_assoc, hd, List.map_append]
    rfl
  · rw [hs.enqueue_refused ho]
    exact { hs with refused := fun h => by cases ho.symm.trans h }

/-- Waiting for an event leaves all in order. -/
lemma receive (hs : s.Orderly) (ho : s.owned = true) : s.receive.Orderly := by
  unfold Crossing.receive
  obtain ⟨-, hd⟩ | ⟨e, rest, hv, hd⟩ := s.wiring.dequeue_cases
  · rw [hd]
    exact hs
  · rw [hd]
    refine { hs with held := hs.held_withEvents ho _, order := ?_ }
    have hq := hs.order
    rw [resident, hv] at hq
    show s.taken ++ [e] ++ rest ++ s.discarded = s.accepted.map Prod.snd
    rw [← hq, List.append_assoc s.taken]
    rfl

/-- Draining leaves all in order. -/
lemma drain (hs : s.Orderly) (ho : s.owned = true) : s.drain.Orderly := by
  rw [Crossing.drain, s.wiring.drain_eq]
  refine { hs with held := hs.held_withEvents ho _, order := ?_ }
  show s.taken ++ s.resident ++ [] ++ s.discarded = s.accepted.map Prod.snd
  rw [List.append_nil]
  exact hs.order

/-- With the bridge goes what waits, and what waits only. -/
lemma close_eq (hs : s.Orderly) (ho : s.owned = true) :
    s.close.discarded = s.resident ∧ s.close.resident = [] := by
  obtain ⟨hd, -, hv⟩ := (hs.held_open ho).close
  refine ⟨?_, hv⟩
  rw [Crossing.close, hd, hs.discarded ho]
  rfl

/-- Closing the bridge leaves all in order. -/
lemma close (hs : s.Orderly) (ho : s.owned = true) : s.close.Orderly := by
  obtain ⟨hd, hr⟩ := hs.close_eq ho
  obtain ⟨-, hh, -⟩ := (hs.held_open ho).close
  refine { hs with held := hh, order := ?_, refused := nofun, discarded := nofun }
  have hq := hs.order
  rw [hs.discarded ho, List.append_nil] at hq
  rw [hr, hd, List.append_nil]
  exact hq

/-- What is done to the fault slot does not matter to the events. -/
lemma offer (hs : s.Orderly) (text : String) :
    Orderly { s with wiring := (s.wiring.offer text).2 } := by
  obtain ho | ho := Bool.eq_false_or_eq_true s.owned
  · rw [(hs.held_open ho).offer_open]
    split
    · have hh : (s.wiring.withFaults [text]).Held true s.producers.length :=
        (hs.held_open ho).withFaults (Nat.le_refl 1)
      exact { hs with held := ho ▸ hh }
    · exact hs
  · rw [(hs.held_closed ho).offer_closed]
    exact hs

/-- Taking a fault leaves all in order. -/
lemma takeFault (hs : s.Orderly) (ho : s.owned = true) :
    Orderly { s with wiring := s.wiring.takeFault.2 } := by
  obtain ⟨-, ht⟩ | ⟨text, rest, hv, ht⟩ := s.wiring.takeFault_cases
  · rw [ht]
    exact hs
  · rw [ht]
    have hl : rest.length ≤ 1 := by
      have hs := hs.held.single
      rw [hv, List.length_cons] at hs
      omega
    exact { hs with held := ho ▸ (hs.held_open ho).withFaults hl }

/-- A permitted turn keeps the order. -/
lemma turn {t : Turn} (hs : s.Orderly) (hp : s.permits t) : (s.turn t).Orderly := by
  cases t with
  | supply | clone p => exact hs.join
  | retire p => exact hs.retire (by simpa [permits] using hp)
  | enqueue p e => exact hs.enqueue p e
  | offer p text => exact hs.offer text
  | receive => exact hs.receive hp
  | takeFault => exact hs.takeFault hp
  | drain => exact hs.drain hp
  | close => exact hs.close hp

/-- Turns leave all in order. -/
lemma run {turns : List Turn} {u : Crossing} (hs : s.Orderly) (hr : Run s turns u) :
    u.Orderly := by
  induction hr with
  | nil => exact hs
  | cons hp _ ih => exact ih (hs.turn hp)

end Orderly

/-- The events that are handed over, in order, each with its producer. -/
def enqueues (turns : List Turn) : List (Nat × Event) :=
  turns.filterMap Turn.enqueued?

/-- What is handed over in turns, turn by turn. -/
lemma enqueues_cons (t : Turn) (turns : List Turn) :
    enqueues (t :: turns) = t.enqueued?.toList ++ enqueues turns := by
  rw [enqueues, enqueues, List.filterMap_cons]
  cases t.enqueued? <;> rfl

namespace Orderly

variable {s u : Crossing}

/-- What is handed over is accepted or refused, and everything that is accepted before anything that
is refused. -/
lemma accepted_refused_turn (hs : s.Orderly) (t : Turn) :
    (s.turn t).accepted ++ (s.turn t).refused =
      s.accepted ++ s.refused ++ t.enqueued?.toList := by
  cases t with
  | enqueue p e =>
    obtain ho | ho := Bool.eq_false_or_eq_true s.owned
    · rw [Crossing.turn, hs.enqueue_eq ho, hs.refused ho, List.append_nil, List.append_nil]
      rfl
    · rw [Crossing.turn, hs.enqueue_refused ho, List.append_assoc]
      rfl
  | receive =>
    rw [Crossing.turn, Crossing.receive]
    split <;> exact (List.append_nil _).symm
  | _ => exact (List.append_nil _).symm

/-- What is handed over is accepted or refused, in order. -/
lemma accepted_refused {turns : List Turn} (hs : s.Orderly) (hr : Run s turns u) :
    u.accepted ++ u.refused = s.accepted ++ s.refused ++ enqueues turns := by
  induction hr with
  | nil => exact (List.append_nil _).symm
  | cons hp _ ih =>
    rw [ih (hs.turn hp), hs.accepted_refused_turn, enqueues_cons, List.append_assoc]

/-- Producers can be dropped down to the last one, and the bridge does not notice. -/
lemma retire_all (hs : s.Orderly) :
    ∃ u, Run s (s.producers.map .retire) u ∧
      u = { s with wiring := u.wiring, producers := [] } ∧ u.resident = s.resident ∧
      u.wiring.bridge? = s.wiring.bridge? := by
  induction hps : s.producers generalizing s with
  | nil => exact ⟨s, .nil, by rw [← hps], rfl, rfl⟩
  | cons p rest ih =>
    have hp : p ∈ s.producers := by simp [hps]
    have hrest : (s.retire p).producers = rest := by simp [Crossing.retire, hps]
    obtain ⟨u, hr, hu, hv, hb⟩ := ih (hs.retire hp) hrest
    exact ⟨u, .cons (by simpa [permits] using hp) hr, hu, hv, hb⟩

end Orderly

end Crossing

end ChangeFeed
