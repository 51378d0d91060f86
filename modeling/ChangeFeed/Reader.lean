import ChangeFeed.Hub

/-!
# Stream readers

What a feed asks of its reader: to end, and to be waited for. A reader acts on the hub by moves
only, and it may hand over a fault without waiting only while the slot is free.
-/

namespace ChangeFeed

/-- A running reader of state `ρ` (`ChangeStreamReader`). Waiting for it tells the reader whether
the fault slot is free; it answers whether it ended, with the moves that it made meanwhile. -/
class Reader (ρ : Type) where
  shutDown : ρ → ρ
  join : ρ → Span → (slotFree : Bool) → JoinStatus × List Move × ρ

/-- What starting a reader came to: the moves that it made, and the reader unless it failed. -/
structure Launch (ρ : Type) where
  moves : List Move
  outcome : Except String ρ

/-- Starts readers (`ReaderFactory.start`). -/
abbrev ReaderFactory (ρ : Type) := ReaderContext → Launch ρ

/-- A reader of either of two sorts. -/
instance {ρ σ : Type} [Reader ρ] [Reader σ] : Reader (ρ ⊕ σ) where
  shutDown
    | .inl r => .inl (Reader.shutDown r)
    | .inr r => .inr (Reader.shutDown r)
  join
    | .inl r, span, slotFree =>
      let (status, moves, r) := Reader.join r span slotFree
      (status, moves, .inl r)
    | .inr r, span, slotFree =>
      let (status, moves, r) := Reader.join r span slotFree
      (status, moves, .inr r)

end ChangeFeed
