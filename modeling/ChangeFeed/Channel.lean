/-!
# Channels

A channel carries values from its senders to its receivers, first in first out, and holds any number
of them or only so many. Its ends are counted. A value that nobody can receive any more is handed
back; what still waits when the last receiver goes is let go of, in order; and who waits at an empty
channel is told whether there is anybody left who could send. `receiveAll_eq` says what receiving
comes to that goes on until nothing is left.
-/

namespace ChangeFeed

/-- The values that wait, first in first out, how many may wait at once if that is limited, and the
number of ends on either side. -/
structure Channel (α : Type) where
  capacity : Option Nat
  values : List α
  senders : Nat
  receivers : Nat

/-- What becomes of a value that is sent without waiting. -/
inductive Sent (α : Type) where
  | accepted
  | full (value : α)
  | disconnected (value : α)

/-- What a receiver is told, at the latest when its time is over. -/
inductive Received (α : Type) where
  | value (v : α)
  | empty
  | disconnected

namespace Channel

variable {α : Type}

/-- A channel with one sender and one receiver. -/
def new (capacity : Option Nat) : Channel α :=
  ⟨capacity, [], 1, 1⟩

/-- The channel with other values waiting. -/
def withValues (c : Channel α) (values : List α) : Channel α :=
  { c with values }

/-- Whether as many values wait as may. -/
def isFull (c : Channel α) : Bool :=
  match c.capacity with
  | none => false
  | some n => n ≤ c.values.length

/-- Sends a value without waiting; one that is not accepted is handed back. -/
def send (v : α) (c : Channel α) : Sent α × Channel α :=
  if c.receivers = 0 then (.disconnected v, c)
  else if c.isFull then (.full v, c)
  else (.accepted, c.withValues (c.values ++ [v]))

/-- Receives the value that has waited longest. -/
def receive (c : Channel α) : Received α × Channel α :=
  match c.values with
  | [] => (if c.senders = 0 then .disconnected else .empty, c)
  | v :: rest => (.value v, c.withValues rest)

/-- Nothing is received only where nothing waits, which changes nothing. -/
theorem receive_cases (c : Channel α) :
    (c.values = [] ∧ c.receive = (if c.senders = 0 then .disconnected else .empty, c)) ∨
      ∃ v rest, c.values = v :: rest ∧ c.receive = (.value v, c.withValues rest) := by
  unfold receive
  cases c.values with
  | nil => exact .inl ⟨rfl, rfl⟩
  | cons v rest => exact .inr ⟨v, rest, rfl, rfl⟩

/-- The value that is received is the first, and the others are left. -/
theorem receive_eq_value {c d : Channel α} {v : α} (h : c.receive = (.value v, d)) :
    c.values = v :: d.values ∧ d = c.withValues d.values := by
  obtain ⟨-, hr⟩ | ⟨w, rest, hv, hr⟩ := c.receive_cases
  · rw [hr] at h
    split at h <;> cases h
  · rw [hr] at h
    cases h
    exact ⟨hv, rfl⟩

/-- Receives until nothing is left. -/
def receiveAll (c : Channel α) : List α × Channel α :=
  match _h : c.receive with
  | (.value v, d) =>
    let (rest, d) := receiveAll d
    (v :: rest, d)
  | (.empty, d) | (.disconnected, d) => ([], d)
termination_by c.values.length
decreasing_by simp [(receive_eq_value _h).1]

/-- Hands out another sender. -/
def addSender (c : Channel α) : Channel α :=
  { c with senders := c.senders + 1 }

/-- Lets go of a sender. -/
def dropSender (c : Channel α) : Channel α :=
  { c with senders := c.senders - 1 }

/-- Lets go of a receiver; with the last one go the values that still wait, which are given in
order. -/
def dropReceiver (c : Channel α) : List α × Channel α :=
  if 1 < c.receivers then ([], { c with receivers := c.receivers - 1 })
  else (c.values, { c with values := [], receivers := 0 })

/-- Nothing is received where nothing waits. -/
theorem receive_of_ne_value {c d : Channel α} {r : Received α} (h : c.receive = (r, d))
    (hr : ∀ v, r ≠ .value v) : c.values = [] ∧ d = c.withValues [] := by
  obtain ⟨hv, hc⟩ | ⟨w, rest, -, hc⟩ := c.receive_cases
  · rw [hc] at h
    cases h
    exact ⟨hv, by rw [withValues, ← hv]⟩
  · rw [hc] at h
    cases h
    exact absurd rfl (hr w)

/-- Receiving until nothing is left gives what waited, in order. -/
theorem receiveAll_eq (c : Channel α) : c.receiveAll = (c.values, c.withValues []) := by
  fun_induction receiveAll c with
  | case1 c v d h rest d' hd ih =>
    obtain ⟨hv, he⟩ := receive_eq_value h
    rw [hd] at ih
    obtain ⟨rfl, rfl⟩ := Prod.mk.inj ih
    rw [hv, he]
    rfl
  | case2 c d h =>
    obtain ⟨hv, rfl⟩ := receive_of_ne_value h (by simp)
    rw [hv]
  | case3 c d h =>
    obtain ⟨hv, rfl⟩ := receive_of_ne_value h (by simp)
    rw [hv]

end Channel

end ChangeFeed
