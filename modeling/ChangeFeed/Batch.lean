import ChangeFeed.Feed.Error
import ChangeFeed.Hub.Measure

/-!
# Batches

A poll collects the records of queued events into one batch. It ends when the batch is full, that
is when as many events were taken as the limit allows and at least one gave a record; when the
bridge stayed empty for one wait and there is a record; when the running flag is cleared; or when
a fault waits or an event cannot be processed, which fails the poll. `round` states the order of all
that; `measure_round` is why the rounds come to an end.

An event is acknowledged once it is converted, whether or not it gave a record, and it is released
on every path.
-/

namespace ChangeFeed

/-- A pipeline with the codec of its positions and the limit of its batches (`BatchAssembler`). -/
structure Assembler where
  pipeline : Pipeline
  codec : Codec
  limit : BatchLimit

/-- What a poll came to. A poll that waits goes on once the running flag is cleared or an event or
a fault arrives. -/
inductive Poll where
  | done (result : Except FeedError (List FeedRecord))
  | waiting

namespace Assembler

/-- The record that the host publishes (`BatchAssembler.to_source_record`). -/
def feedRecord (a : Assembler) (c : Converted) : FeedRecord :=
  { sourcePartition := a.codec.sourcePartition c.partition
    sourceOffset := Codec.sourceOffset c.position
    topic := c.record.topic.getD a.pipeline.topic
    partition := c.record.partition
    key := c.record.key
    value := c.record.value
    timestamp := c.record.timestamp }

/-- Converts one event (`BatchAssembler.process`). If that fails the event is released without being
acknowledged; else it is acknowledged and released, and a failing release takes the place of the
record. Before the release other threads may act. -/
def process (a : Assembler) (e : Event) (h : Hub) : Except FeedError (Option FeedRecord) × Hub :=
  match a.pipeline.run e h with
  | (.error cause, h) =>
    (.error (.pipeline cause), h.yield.releaseOrLog .abandonedFailure e.message)
  | (.ok converted, h) =>
    match (h.acknowledge e).yield.release e.message with
    | (.error cause, h) => (.error (.release cause), h)
    | (.ok (), h) => (.ok (converted.map a.feedRecord), h)

/-- Ends a poll with records. -/
def finish (records : List FeedRecord) (h : Hub) : Poll × Hub :=
  (.done (.ok records),
    h.log (.info "poll returns result(s)" [("n", .number records.length)]))

/-- How one round of a poll ends. -/
inductive Round where
  | ends (poll : Poll)
  | goesOn (remaining : Nat) (records : List FeedRecord)

/-- One round of a poll that was seen to be running: takes an event if there is one and processes
it, ends the poll if the batch is full or the bridge is idle, and looks for a fault
(`BatchAssembler.poll`). -/
def round (a : Assembler) (remaining : Nat) (records : List FeedRecord) (h : Hub) : Round × Hub :=
  match h.dequeue with
  | (some e, h) =>
    match a.process e h with
    | (.error cause, h) => (.ends (.done (.error cause)), h)
    | (.ok record, h) =>
      let records := records ++ record.toList
      let remaining := remaining - 1
      if ¬ records.isEmpty ∧ remaining = 0 then
        let (poll, h) := finish records h
        (.ends poll, h)
      else
        match h.takeFault with
        | (some fault, h) => (.ends (.done (.error (.fatal fault))), h)
        | (none, h) => (.goesOn remaining records, h)
  | (none, h) =>
    if ¬ records.isEmpty then
      let (poll, h) := finish records h
      (.ends poll, h)
    else
      match h.takeFault with
      | (some fault, h) => (.ends (.done (.error (.fatal fault))), h)
      | (none, h) =>
        if h.schedule.isEmpty then (.ends .waiting, h) else (.goesOn remaining records, h)

/-- Running a pipeline does not increase the measure. -/
theorem measure_run (p : Pipeline) (e : Event) (h : Hub) : (p.run e h).2.measure ≤ h.measure := by
  have hf : (p.recordFilter e.message h).measure ≤ h.measure := by
    unfold Pipeline.recordFilter
    split
    · exact Nat.le_refl _
    · exact Hub.measure_yield h
  unfold Pipeline.run
  split
  · exact hf
  · exact hf
  · exact Nat.le_trans (Hub.measure_yield _) hf

/-- Processing an event brings about no more than its acknowledgement does. -/
theorem measure_process (a : Assembler) (e : Event) (h : Hub) :
    (a.process e h).2.measure + 1 ≤ h.measure + e.weight := by
  have hr := measure_run a.pipeline e h
  have hw := e.weight_pos
  unfold process
  split
  · rename_i cause g hg
    rw [hg] at hr
    have hy := Hub.measure_yield g
    simp only [Hub.measure_releaseOrLog] at hr ⊢
    omega
  · rename_i converted g hg
    rw [hg] at hr
    have ha := Hub.measure_acknowledge e g
    have hy := Hub.measure_yield (g.acknowledge e)
    have hl := Hub.measure_release e.message (g.acknowledge e).yield
    split <;> rename_i heq <;> rw [heq] at hl <;> simp only at hl hr ⊢ <;> omega

/-- A round after which the poll goes on decreases what the hub can still bring about. -/
theorem measure_round {a : Assembler} {remaining remaining' : Nat}
    {records records' : List FeedRecord} {h g : Hub}
    (hr : a.round remaining records h = (.goesOn remaining' records', g)) :
    g.measure < h.measure := by
  unfold round at hr
  split at hr
  · rename_i e h1 hd
    have h2 := Hub.measure_dequeue_some hd
    have hp := measure_process a e h1
    split at hr
    · cases hr
    · rename_i record h3 heq
      rw [heq] at hp
      simp only at hr hp
      split at hr
      · cases hr
      · have ht := Hub.measure_takeFault h3
        have hy := Hub.measure_yield h3
        split at hr
        · cases hr
        · rename_i h4 hf
          rw [hf] at ht
          obtain ⟨-, rfl⟩ := Prod.mk.inj hr
          simp only at ht
          omega
  · rename_i h1 hd
    have h2 := (Hub.measure_dequeue_none hd).1
    split at hr
    · cases hr
    · have ht := Hub.measure_takeFault h1
      have hs := Hub.schedule_takeFault h1
      split at hr
      · cases hr
      · rename_i h4 hf
        rw [hf] at ht hs
        simp only at hr ht hs
        split at hr
        · cases hr
        · rename_i hne
          obtain ⟨-, rfl⟩ := Prod.mk.inj hr
          have := Hub.measure_yield_lt (h := h1) (by simpa [hs] using hne)
          omega

/-- Polls with the given number of events left to take and the given records collected so far
(`BatchAssembler.poll`). -/
def pollFrom (a : Assembler) (remaining : Nat) (records : List FeedRecord) (h : Hub) : Poll × Hub :=
  match _hf : h.readFlag with
  | (false, h) => (.done (.ok records), h)
  | (true, g) =>
    match _hr : a.round remaining records g with
    | (.ends poll, h) => (poll, h)
    | (.goesOn remaining records, next) => pollFrom a remaining records next
termination_by h.measure
decreasing_by
  have h1 := measure_round _hr
  have h2 := Hub.measure_yield h
  have h3 := Hub.measure_readFlag h
  rw [_hf] at h3
  simp only at h3
  omega

/-- Collects the next batch (`BatchAssembler.poll`). -/
def poll (a : Assembler) (h : Hub) : Poll × Hub :=
  a.pollFrom a.limit.1 [] h

/-- Collects the next batch; if there is nothing to wait for, the running flag is cleared, so that
the poll ends. The flag is cleared when the poll is over in any case. -/
def pollUntilStopped (a : Assembler) (h : Hub) : Poll × Hub :=
  let (result, h) : Poll × Hub :=
    match a.poll h with
    | (.done result, h) => (.done result, h)
    | (.waiting, h) => a.poll (h.setRunning false)
  (result, h.setRunning false)

end Assembler

end ChangeFeed
