import ChangeFeed.Hub

/-!
# How much a hub can still bring about

The measure of a hub counts the events that wait in its bridge or are still to be enqueued, by
other threads or by acknowledgement hooks, and the batches of moves that are still to be made.
No operation increases it by more than what is handed to the hub, and taking an event decreases it
by the weight of that event. This is why polling ends.
-/

namespace ChangeFeed

namespace Move

/-- The number of events that moves can bring about. -/
def weights : List Move → Nat
  | [] => 0
  | m :: rest => m.weight + weights rest

/-- No moves have no weight. -/
@[simp] theorem weights_nil : weights [] = 0 := rfl

/-- The weight of moves is that of the first and of the others. -/
@[simp] theorem weights_cons (m : Move) (ms : List Move) :
    weights (m :: ms) = m.weight + weights ms := rfl

/-- The number of batches of a schedule, and of the events that they can bring about. -/
def scheduleWeight : List (List Move) → Nat
  | [] => 0
  | batch :: rest => weights batch + 1 + scheduleWeight rest

end Move

namespace Hub

/-- The number of events that the bridge can bring about. -/
def queued (h : Hub) : Nat :=
  match h.bridge with
  | none => 0
  | some b => Event.weights b.events

/-- The number of events and batches of moves that a hub can still bring about. -/
def measure (h : Hub) : Nat :=
  h.queued + Move.scheduleWeight h.schedule

/-- Noting something leaves the measure. -/
@[simp] theorem measure_record (entry : Entry) (h : Hub) :
    (h.record entry).measure = h.measure := rfl

/-- Logging a line leaves the measure. -/
@[simp] theorem measure_log (line : LogLine) (h : Hub) : (h.log line).measure = h.measure := rfl

/-- Setting or clearing the flag leaves the measure. -/
@[simp] theorem measure_setRunning (running : Bool) (h : Hub) :
    (h.setRunning running).measure = h.measure := rfl

/-- A release leaves the measure. -/
theorem measure_release (m : Message) (h : Hub) : (h.release m).2.measure = h.measure := by
  unfold release
  split
  · rfl
  · split <;> rfl

/-- A release that is logged leaves the measure. -/
theorem measure_releaseOrLog (line : RedactionLevel → Message → ReleaseError → LogLine)
    (m : Message) (h : Hub) : (h.releaseOrLog line m).measure = h.measure := by
  have hr := measure_release m h
  unfold releaseOrLog
  split
  · rename_i g hg
    rw [hg] at hr
    exact hr
  · rename_i e g hg
    rw [hg] at hr
    simpa using hr

/-- Dropping a message leaves the measure. -/
theorem measure_drop (m : Message) (h : Hub) : (h.drop m).measure = h.measure :=
  measure_releaseOrLog _ m h

/-- Handing over an event increases the measure by the weight of the event at most. -/
theorem measure_enqueue (origin : Origin) (e : Event) (h : Hub) :
    (h.enqueue origin e).2.measure ≤ h.measure + e.weight := by
  unfold enqueue
  split
  · simp
  · rename_i b hb
    simp [measure, queued, hb]
    omega

/-- Handing over a fault leaves the measure. -/
theorem measure_report (origin : Origin) (text : String) (h : Hub) :
    (h.report origin text).2.measure = h.measure := by
  unfold report
  split
  · rfl
  · rename_i b hb
    simp [measure, queued, hb]

/-- A move increases the measure by its weight at most. -/
theorem measure_move (m : Move) (h : Hub) : (h.move m).measure ≤ h.measure + m.weight := by
  cases m with
  | enqueue e =>
    have he := measure_enqueue .producer e h
    simp only [move]
    split
    · rename_i g hg
      rw [hg] at he
      exact he
    · rename_i g hg
      rw [hg] at he
      exact he
  | report text => simp [move, measure_report, Move.weight]
  | setRunning running => simp [move, Move.weight]
  | log line => simp [move, Move.weight]
  | letGo i =>
    simp only [move]
    split
    · exact Nat.le_refl _
    · rw [measure_drop]
      exact Nat.le_refl _

/-- Moves increase the measure by their weight at most. -/
theorem measure_moves (ms : List Move) (h : Hub) :
    (moves ms h).measure ≤ h.measure + Move.weights ms := by
  induction ms generalizing h with
  | nil => simp [moves]
  | cons m rest ih =>
    have h1 := measure_move m h
    have h2 := ih (h.move m)
    simp only [moves, Move.weights_cons]
    omega

/-- Dropping a message leaves the moves that others will make. -/
theorem schedule_drop (m : Message) (h : Hub) : (h.drop m).schedule = h.schedule := by
  unfold drop releaseOrLog release
  cases m.buffer with
  | none => rfl
  | some b => cases m.releaseError? <;> rfl

/-- A move leaves the moves that others will make later. -/
theorem schedule_move (m : Move) (h : Hub) : (h.move m).schedule = h.schedule := by
  cases m with
  | enqueue e =>
    simp only [move, enqueue]
    split <;> rename_i heq <;> split at heq <;> simp_all [record] <;> grind
  | report text =>
    simp only [move, report]
    split <;> rfl
  | setRunning running => rfl
  | log line => rfl
  | letGo i =>
    simp only [move]
    split
    · rfl
    · rw [schedule_drop]

/-- Moves leave the moves that others will make later. -/
theorem schedule_moves (ms : List Move) (h : Hub) : (moves ms h).schedule = h.schedule := by
  induction ms generalizing h with
  | nil => rfl
  | cons m rest ih => rw [moves, ih, schedule_move]

/-- Letting the other threads act uses up one batch of the schedule. -/
theorem measure_yield (h : Hub) : h.yield.measure ≤ h.measure := by
  unfold yield
  split
  · exact Nat.le_refl _
  · rename_i batch rest hs
    have := measure_moves batch { h with schedule := rest }
    simp only [measure, queued, hs, Move.scheduleWeight] at *
    omega

/-- As long as moves are left after it, letting the other threads act decreases the measure. -/
theorem measure_yield_lt {h : Hub} (hs : h.yield.schedule ≠ []) : h.yield.measure < h.measure := by
  unfold yield at hs ⊢
  split
  · rename_i hn
    simp [hn] at hs
  · rename_i batch rest hn
    have := measure_moves batch { h with schedule := rest }
    simp only [measure, queued, hn, Move.scheduleWeight] at *
    omega

/-- Reading the flag does to the measure what others do meanwhile. -/
theorem measure_readFlag (h : Hub) : h.readFlag.2.measure = h.yield.measure := rfl

/-- Taking an event decreases the measure by the weight of the event. -/
theorem measure_dequeue_some {h g : Hub} {e : Event} (hd : h.dequeue = (some e, g)) :
    g.measure + e.weight ≤ h.measure := by
  have hy := measure_yield h
  simp only [dequeue] at hd
  split at hd
  · cases hd
  · rename_i e' b' hb
    obtain ⟨he, rfl⟩ := Prod.mk.inj hd
    obtain rfl := Option.some.inj he
    obtain ⟨b, hb1, hb2⟩ := Option.bind_eq_some_iff.1 hb
    have hev := (Bridge.dequeue_eq_some_iff.1 hb2).1
    simp only [measure, queued, hb1, hev, Event.weights_cons] at hy
    simp only [measure, queued, bridge_record, schedule_record]
    omega

/-- Waiting in vain does not increase the measure, and leaves the moves that others will
make later. -/
theorem measure_dequeue_none {h g : Hub} (hd : h.dequeue = (none, g)) :
    g.measure ≤ h.measure ∧ g.schedule = h.yield.schedule := by
  have hy := measure_yield h
  simp only [dequeue] at hd
  split at hd
  · obtain ⟨-, rfl⟩ := Prod.mk.inj hd
    exact ⟨hy, rfl⟩
  · cases hd

/-- Taking a fault does to the measure what others do meanwhile. -/
theorem measure_takeFault (h : Hub) : h.takeFault.2.measure = h.yield.measure := by
  simp only [takeFault]
  split
  · rfl
  · rename_i b hb
    split <;> simp [measure, queued, hb, Bridge.takeFault, record]

/-- Taking a fault leaves the moves that others will make later. -/
theorem schedule_takeFault (h : Hub) : h.takeFault.2.schedule = h.yield.schedule := by
  simp only [takeFault]
  split
  · rfl
  · split <;> rfl

/-- A hook increases the measure by its weight at most. -/
theorem measure_runHook (hook : Hook Event) (h : Hub) :
    (h.runHook hook).measure ≤ h.measure + Event.weightHook hook := by
  cases hook with
  | stop => simp [runHook, Event.weightHook]
  | report text => simp [runHook, measure_report, Event.weightHook]
  | enqueue e =>
    have he := measure_enqueue .hook e h
    simp only [runHook, Event.weightHook]
    split
    · rename_i g hg
      rw [hg] at he
      exact he
    · rename_i g hg
      rw [hg] at he
      rw [measure_drop]
      exact he

/-- Hooks increase the measure by their weight at most. -/
theorem measure_runHooks (hooks : List (Hook Event)) (h : Hub) :
    (runHooks hooks h).measure ≤ h.measure + Event.weightHooks hooks := by
  induction hooks generalizing h with
  | nil => simp [runHooks]
  | cons hook rest ih =>
    have h1 := measure_yield h
    have h2 := measure_runHook hook h.yield
    have h3 := ih (h.yield.runHook hook)
    simp only [runHooks, Event.weightHooks]
    omega

/-- An acknowledgement brings about no more than the events of its hooks. -/
theorem measure_acknowledge (e : Event) (h : Hub) :
    (h.acknowledge e).measure + 1 ≤ h.measure + e.weight := by
  have h1 := measure_yield h
  have h2 := measure_runHooks e.hooks (h.yield.record (.acknowledged e))
  rw [Event.weight_eq]
  simp only [acknowledge, measure_record] at *
  omega

end Hub

end ChangeFeed
