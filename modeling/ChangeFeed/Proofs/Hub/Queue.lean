import ChangeFeed.Proofs.Hub.Path

/-!
# The bridge along a run

As long as the bridge is neither opened nor closed it is a first-in first-out queue: what waited
in it, followed by what it took since, is what was taken from it, followed by what waits in it now.
While an event is attended to nothing is taken, and a fault that waits goes on waiting.
-/

namespace ChangeFeed

/-- The bridge is still open or still closed, and the given events, and no others, were taken from
it in the order in which it took them. -/
structure Hub.Dequeues (events : List Event) (h k : Hub) : Prop where
  isSome_bridge : k.bridge.isSome = h.bridge.isSome
  queue : ∃ new, k.journal = h.journal ++ new ∧ taken new = events ∧
    h.resident ++ accepted new = events ++ k.resident

namespace Hub.Dequeues

variable {h k l : Hub} {as bs : List Event}

/-- Nothing is taken where neither the bridge nor the journal changes. -/
lemma same (hb : k.bridge = h.bridge) (hj : k.journal = h.journal) : Dequeues [] h k :=
  ⟨by rw [hb], [], by simp [hj], rfl, by simp [resident, hb, accepted]⟩

/-- Nothing is taken where an entry about something else is added and the queue stays. -/
lemma noted {entry : Entry} (hs : k.bridge.isSome = h.bridge.isSome)
    (hr : k.resident = h.resident) (hj : k.journal = h.journal ++ [entry])
    (ht : entry.taken? = none) (hc : entry.accepted? = none) : Dequeues [] h k :=
  ⟨hs, [entry], hj, by simp [ht], by simp [hc, hr]⟩

/-- A hub that stays as it is has nothing taken. -/
lemma refl : Dequeues [] h h :=
  same rfl rfl

/-- What is taken first comes first. -/
lemma trans (hk : Dequeues as h k) (kl : Dequeues bs k l) : Dequeues (as ++ bs) h l := by
  obtain ⟨new1, j1, t1, q1⟩ := hk.queue
  obtain ⟨new2, j2, t2, q2⟩ := kl.queue
  refine ⟨kl.isSome_bridge.trans hk.isSome_bridge, new1 ++ new2, ?_, ?_, ?_⟩
  · rw [j2, j1, List.append_assoc]
  · rw [taken_append, t1, t2]
  · calc h.resident ++ accepted (new1 ++ new2)
        = (h.resident ++ accepted new1) ++ accepted new2 := by simp
      _ = as ++ (k.resident ++ accepted new2) := by rw [q1, List.append_assoc]
      _ = (as ++ bs) ++ l.resident := by rw [q2, List.append_assoc]

end Hub.Dequeues

/-- As long as no bridge is open nothing is handed over; so it makes no difference when it is
opened. -/
lemma Hub.Dequeues.openBridge {h k : Hub} (hd : h.Dequeues [] k) (hb : h.bridge = none) :
    h.openBridge.Dequeues [] k.openBridge := by
  obtain ⟨hs, new, hj, ht, hq⟩ := hd
  have hk : k.bridge = none := by simpa [hb] using hs
  have hn : accepted new = [] := by simpa [resident, hb, hk] using hq
  exact ⟨rfl, new, hj, ht, by rw [hn, List.append_nil]; rfl⟩

/-- Reporting a fault takes no event. -/
lemma Hub.dequeues_report (h : Hub) (origin : Origin) (text : String) :
    h.Dequeues [] (h.report origin text).2 := by
  obtain ⟨hr, ⟨_, hj⟩, -⟩ := h.report_frame origin text
  refine .noted ?_ hr hj rfl rfl
  unfold report
  cases hb : h.bridge <;> simp [hb]

/-- A report does not displace the fault that waits. -/
lemma Hub.fault?_report {h : Hub} {fault : String} (hf : h.fault? = some fault) (origin : Origin)
    (text : String) : (h.report origin text).2.fault? = some fault := by
  obtain ⟨b, hb, hbf⟩ := Option.bind_eq_some_iff.1 hf
  simp [report, hb, fault?, (Bridge.fault_offer text b).2, hbf]

namespace Step

variable {a : Act} {p q : Point}

/-- A note changes neither queue. -/
lemma taken_of_isNote {entry : Entry} (hn : entry.isNote) :
    entry.taken? = none ∧ entry.accepted? = none := by
  cases entry <;> simp_all [Entry.isNote, Entry.taken?, Entry.accepted?]

/-- A step of a poll takes at most one event, and none while an event is attended to. -/
lemma dequeues (st : Step a p q) (ha : a.serves) :
    ∃ events, p.hub.Dequeues events q.hub ∧ (a.attends → events = []) := by
  cases st with
  | turn _ => exact ⟨[], .same rfl rfl, fun _ => rfl⟩
  | setRunning => exact ⟨[], .same rfl rfl, fun _ => rfl⟩
  | setRedaction => exact ⟨[], .same rfl rfl, fun _ => rfl⟩
  | note hn =>
    obtain ⟨ht, hc⟩ := taken_of_isNote hn
    exact ⟨[], .noted rfl rfl rfl ht hc, fun _ => rfl⟩
  | enqueue hb =>
    refine ⟨[], ⟨by simp [hb], [_], rfl, rfl, ?_⟩, fun _ => rfl⟩
    simp [Hub.resident, hb, Entry.accepted?]
  | keep _ => exact ⟨[], .noted rfl rfl rfl rfl rfl, fun _ => rfl⟩
  | refuse _ => exact ⟨[], .noted rfl rfl rfl rfl rfl, fun _ => rfl⟩
  | report => exact ⟨[], Hub.dequeues_report _ _ _, fun _ => rfl⟩
  | @take h s g b e rest hb he =>
    refine ⟨[e], ⟨by simp [hb], [_], rfl, rfl, ?_⟩, fun h => by cases h⟩
    simp [Hub.resident, hb, he, Entry.accepted?]
  | takeFault hb _ =>
    exact ⟨[], .noted (by simp [hb]) (by simp [Hub.resident, hb]) rfl rfl rfl, fun _ => rfl⟩
  | reclaim _ => exact ⟨[], .same rfl rfl, fun _ => rfl⟩
  | give => cases ha
  | release _ => exact ⟨[], .noted rfl rfl rfl rfl rfl, fun _ => rfl⟩
  | forget _ => exact ⟨[], .refl, fun _ => rfl⟩
  | opens _ => cases ha
  | closes _ => cases ha

/-- A fault that waits still waits after a step of a thread that attends to the hub. -/
lemma fault?_eq {fault : String} (st : Step a p q) (ha : a.attends)
    (hf : p.hub.fault? = some fault) : q.hub.fault? = some fault := by
  cases st with
  | enqueue hb => simpa [Hub.fault?, hb] using hf
  | report => exact Hub.fault?_report hf _ _
  | take _ _ => cases ha
  | takeFault _ _ => cases ha
  | opens _ => cases ha
  | closes _ => cases ha
  | _ => exact hf

end Step

namespace Reaches

variable {p q : Point}

/-- A run of a poll takes events in the order in which the bridge took them. -/
lemma dequeues (h : Reaches Act.serves p q) : ∃ events, p.hub.Dequeues events q.hub := by
  refine h.preserves (motive := fun r => ∃ events, p.hub.Dequeues events r.hub) ?_ ⟨[], .refl⟩
  intro a q r ha st ⟨events, hd⟩
  obtain ⟨more, hm, -⟩ := st.dequeues ha
  exact ⟨events ++ more, hd.trans hm⟩

/-- During a poll a closed bridge stays closed. -/
lemma bridge_eq_none (h : Reaches Act.serves p q) (hp : p.hub.bridge = none) :
    q.hub.bridge = none := by
  obtain ⟨events, hd⟩ := h.dequeues
  simpa [hp] using hd.isSome_bridge

/-- A run of threads that attend to the hub takes no event. -/
lemma dequeues_nil (h : Reaches Act.attends p q) : p.hub.Dequeues [] q.hub := by
  refine h.preserves (motive := fun r => p.hub.Dequeues [] r.hub) ?_ .refl
  intro a q r ha st hd
  obtain ⟨more, hm, hn⟩ := st.dequeues (by cases a <;> simp_all [Act.attends, Act.serves])
  rw [hn ha] at hm
  exact hd.trans hm

/-- A fault that waits still waits after a run of threads that attend to the hub. -/
lemma fault?_eq {fault : String} (h : Reaches Act.attends p q)
    (hf : p.hub.fault? = some fault) : q.hub.fault? = some fault :=
  h.preserves (motive := fun r => r.hub.fault? = some fault) (fun ha st => st.fault?_eq ha) hf

end Reaches

namespace Hub

variable {h k : Hub}

/-- Others that act meanwhile take no event. -/
lemma dequeues_yield (h : Hub) : h.Dequeues [] h.yield :=
  (reaches_yield (s := 0) (g := 0)).dequeues_nil

/-- The moves of others take no event. -/
lemma dequeues_moves (ms : List Move) (h : Hub) : h.Dequeues [] (moves ms h) :=
  (reaches_moves (s := 0) (g := 0) ms).dequeues_nil

/-- Dropping a message takes no event. -/
lemma dequeues_drop (m : Message) (h : Hub) : h.Dequeues [] (h.drop m) :=
  (reaches_drop (s := 0) (g := 0) m).dequeues_nil

/-- Noting something takes nothing. -/
lemma dequeues_note {entry : Entry} (hn : entry.isNote) (h : Hub) :
    h.Dequeues [] (h.record entry) := by
  obtain ⟨ht, hc⟩ := Step.taken_of_isNote hn
  exact .noted rfl rfl rfl ht hc

/-- Taking an event takes that one. -/
lemma dequeues_dequeue_some {e : Event} (hd : h.dequeue = (some e, k)) : h.Dequeues [e] k := by
  obtain ⟨b, rest, hb, he, rfl⟩ := dequeue_eq_some hd
  refine h.dequeues_yield.trans ⟨by simp [hb], [_], rfl, rfl, ?_⟩
  simp [resident, hb, he, Entry.accepted?]

/-- Waiting in vain takes no event. -/
lemma dequeues_dequeue_none (hd : h.dequeue = (none, k)) : h.Dequeues [] k :=
  (reaches_dequeue_none (s := 0) (g := 0) hd).dequeues_nil

/-- Taking a fault takes no event. -/
lemma dequeues_takeFault (h : Hub) : h.Dequeues [] h.takeFault.2 := by
  rcases h.takeFault_cases with ⟨-, ht⟩ | ⟨b, text, hb, -, ht⟩
  · rw [ht]
    exact h.dequeues_yield
  · rw [ht]
    exact h.dequeues_yield.trans (.noted (by simp [hb]) (by simp [resident, hb]) rfl rfl rfl)

end Hub

/-- A bridge that is closed is gone. -/
lemma Hub.bridge_closeBridge (h : Hub) : h.closeBridge.bridge = none := by
  unfold closeBridge
  cases hb : h.bridge with
  | none => exact hb
  | some b => exact (reaches_dropAll (s := 0) (g := 0) b.events).serves.bridge_eq_none rfl

end ChangeFeed
