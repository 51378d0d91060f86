import ChangeFeed.Proofs.Hub.Step

/-!
# Where every buffer is

A message that reached the hub is released at most once, and as long as it is not released it is in
one of three places: in the open bridge, in the hands of a thread that will release it, or with a
producer that got it back from a closed bridge. `Accounted` says so by counting, so that it holds of
equal messages too, and every step preserves it.
-/

namespace ChangeFeed

namespace Point

/-- The messages that reached the hub or its feed so far. -/
def received (p : Point) : Multiset Message :=
  messages (offered p.hub.journal) + p.given

/-- The messages that are still held: in the bridge, in somebody's hands, or handed back. -/
def held (p : Point) : Multiset Message :=
  messages p.hub.resident + p.hands + messages p.hub.handedBack

/-- Every buffer received was either released, once, or is still held. -/
def Accounted (p : Point) : Prop :=
  ∀ m : Message, m.buffer.isSome →
    (released p.hub.journal).count m + p.held.count m = p.received.count m

/-- Of a message that was received once, the buffer was released at most once, and it was not
released exactly if the message is still held. -/
lemma Accounted.once {p : Point} (hp : p.Accounted) {m : Message} (hm : m.buffer.isSome)
    (h : p.received.count m = 1) :
    (released p.hub.journal).count m ≤ 1 ∧ (m ∉ released p.hub.journal ↔ m ∈ p.held) := by
  have hc := hp m hm
  rw [← List.count_eq_zero, ← Multiset.count_pos]
  omega

end Point

/-- Taking an entry out of a list and putting it elsewhere keeps the messages. -/
lemma messages_eraseIdx {events : List Event} {i : Nat} {e : Event} (h : events[i]? = some e) :
    messages events = e.message ::ₘ messages (events.eraseIdx i) := by
  induction events generalizing i with
  | nil => cases h
  | cons a rest ih =>
    cases i with
    | zero =>
      obtain rfl := Option.some.inj h
      rfl
    | succ i => rw [messages_cons, ih h, Multiset.cons_swap, List.eraseIdx_cons_succ, messages_cons]

namespace Step

variable {a : Act} {p q : Point}

/-- A note releases nothing and hands over nothing. -/
lemma released_of_isNote {entry : Entry} (hn : entry.isNote) :
    entry.released? = none ∧ entry.offered? = none := by
  cases entry <;> simp_all [Entry.isNote, Entry.released?, Entry.offered?]

/-- A step preserves that every buffer is accounted for. -/
lemma accounted (st : Step a p q) (hp : p.Accounted) : q.Accounted := by
  intro m hm
  have hc := hp m hm
  simp only [Point.held, Point.received, Multiset.count_add] at hc ⊢
  -- in each case the count of a message that leaves one place goes up in another
  cases st with
  | turn _ => exact hc
  | setRunning => exact hc
  | setRedaction => exact hc
  | note hn =>
    obtain ⟨hr, ho⟩ := released_of_isNote hn
    simpa [hr, ho] using hc
  | enqueue hb =>
    simp [Entry.released?, Entry.offered?, Hub.resident, hb] at hc ⊢
    omega
  | keep hb =>
    simp [Entry.released?, Entry.offered?, Hub.resident, Hub.record, hb] at hc ⊢
    omega
  | refuse hb =>
    simp [Entry.released?, Entry.offered?, Multiset.count_cons, Multiset.count_singleton] at hc ⊢
    omega
  | @report h s g origin text =>
    obtain ⟨hr, ⟨_, hj⟩, hk⟩ := h.report_frame origin text
    simpa [Entry.released?, Entry.offered?, hr, hj, hk] using hc
  | @take h s g b e rest hb he =>
    simp [Entry.released?, Entry.offered?, Hub.resident, hb, he, Multiset.count_cons] at hc ⊢
    omega
  | takeFault hb _ => simpa [Entry.released?, Entry.offered?, Hub.resident, hb] using hc
  | reclaim he =>
    simp [Hub.resident, messages_eraseIdx he, Multiset.count_cons] at hc ⊢
    omega
  | give =>
    simp [Multiset.count_cons] at hc ⊢
    omega
  | @release h s g n _ =>
    simp [Entry.released?, Entry.offered?, Multiset.count_cons, List.count_singleton,
      eq_comm (a := m)] at hc ⊢
    omega
  | @forget h s g n hn =>
    -- what is forgotten has no buffer, so that it is not the message counted
    have hne : m ≠ n := by
      rintro rfl
      simp [hn] at hm
    simpa [Multiset.count_cons, hne] using hc
  | opens hb => simpa [Hub.resident, hb, Hub.openBridge, Bridge.empty] using hc
  | closes hb =>
    simp [Hub.resident, hb] at hc ⊢
    omega

end Step

end ChangeFeed
