import ChangeFeed.Proofs.Batch.Stream
import ChangeFeed.Proofs.Hub.Trace

/-!
# What a poll adds to the journal

Processing an event adds one block to the journal: what the filter and the source handler were
asked, then the acknowledgement with its hooks unless one of them failed, then the release. A poll
reads the flag, takes in an event and its block or waits in vain, and ends or goes on; `PollTrace`
spells out the order of all that together with what the poll comes to. What a poll does to batches
and to single events is read off it by induction.
-/

namespace ChangeFeed

namespace Hub.Adds

variable {h k : Hub} {own : List Entry}

/-- What was added since is the thread's own, with the doings of others woven in. -/
lemma woven (ha : Hub.Adds own h k) :
    k.journal = h.journal ++ h.since k ∧
      Woven (Entry.ByHolder (h.handedBack ++ kept (h.since k))) own (h.since k) := by
  obtain ⟨new, hj, -, hw⟩ := ha
  have hs : h.since k = new := by simp [Hub.since, hj]
  rw [hs]
  exact ⟨hj, hw⟩

/-- What others did does not show in a view that shows none of it. -/
lemma filterMap_since {β : Type} {view : Entry → Option β} (ha : Hub.Adds own h k)
    (hv : ∀ held x, Entry.ByHolder held x → view x = none) :
    (h.since k).filterMap view = own.filterMap view :=
  ha.woven.2.filterMap_eq (hv _)

end Hub.Adds

namespace Pipeline

/-- What the collaborators are asked about an event: the filter if there is one, and the source
handler if the filter lets the message through. -/
def inquiries (p : Pipeline) (e : Event) : List Entry :=
  (p.filter.map fun f => Entry.filtered f.name e.message).toList ++
    match p.passes e.message with
    | .error _ => []
    | .ok false => []
    | .ok true => [.handled p.handler.name (e.document p.bucket) p.topic]

/-- Asking the filter adds that it was asked, if there is one. -/
lemma adds_recordFilter (p : Pipeline) (m : Message) (h : Hub) :
    Hub.Adds (p.filter.map fun f => Entry.filtered f.name m).toList h (p.recordFilter m h) := by
  unfold recordFilter
  cases p.filter with
  | none => exact .refl
  | some f => exact .nil_trans (Hub.adds_yield h) (Hub.adds_record _ _)

/-- Running the pipeline adds whom it asked. -/
lemma adds_run (p : Pipeline) (e : Event) (h : Hub) :
    Hub.Adds (p.inquiries e) h (p.run e h).2 := by
  have hf := p.adds_recordFilter e.message h
  unfold run inquiries
  cases p.passes e.message with
  | error cause => simpa using hf
  | ok passed =>
    cases passed with
    | false => simpa using hf
    | true =>
      apply hf.trans
      exact .nil_trans (Hub.adds_yield _) (Hub.adds_record _ _)

/-- Running the pipeline neither opens nor closes the bridge. -/
lemma isSome_bridge_run (p : Pipeline) (e : Event) (h : Hub) :
    (p.run e h).2.bridge.isSome = h.bridge.isSome :=
  (p.reaches_run (s := 0) (g := 0) e).dequeues_nil.isSome_bridge

end Pipeline

namespace Assembler

variable (a : Assembler)

/-- What processing an event adds to the journal, the bridge being open or not. -/
inductive Block (isOpen : Bool) (e : Event) : List Entry → Prop where
  | failed {cause level} :
    a.pipeline.result e = .error cause →
    Block isOpen e (a.pipeline.inquiries e ++ e.message.parting (.abandonedFailure level))
  | converted {converted hooks} :
    a.pipeline.result e = .ok converted →
    Hook.Traces isOpen e.hooks hooks →
    Block isOpen e (a.pipeline.inquiries e ++ .acknowledged e :: hooks ++ e.message.releases)

/-- What a round takes in: an event that is processed without failing, or nothing for one wait. Says
whether it was idle, how many events are left to take, and which records were collected. -/
inductive Intake (isOpen : Bool) (remaining : Nat) (records : List FeedRecord) :
    List Entry → Bool → Nat → List FeedRecord → Prop where
  | event {e block record} :
    a.Block isOpen e block →
    a.outcome e = .ok record →
    Intake isOpen remaining records (.dequeued e :: block) false (remaining - 1)
      (records ++ record.toList)
  | idle : Intake isOpen remaining records [.waited] true remaining records

/-- There are records, and either the batch is full or the bridge is idle. -/
def Complete (idle : Bool) (left : Nat) (records : List FeedRecord) : Prop :=
  records ≠ [] ∧ (left = 0 ∨ idle = true)

/-- What a round adds to the journal, and how it ends. -/
inductive RoundTrace (isOpen : Bool) (remaining : Nat) (records : List FeedRecord) :
    List Entry → Round → Prop where
  | failed {e block cause} :
    a.Block isOpen e block →
    a.outcome e = .error cause →
    RoundTrace isOpen remaining records (.dequeued e :: block) (.ends (.done (.error cause)))
  | returns {own idle left batch} :
    a.Intake isOpen remaining records own idle left batch →
    Complete idle left batch →
    RoundTrace isOpen remaining records
      (own ++ [.logged (.info "poll returns result(s)" [("n", .number batch.length)])])
      (.ends (.done (.ok batch)))
  | fault {own idle left batch fault} :
    a.Intake isOpen remaining records own idle left batch →
    ¬ Complete idle left batch →
    RoundTrace isOpen remaining records (own ++ [.faultTaken fault])
      (.ends (.done (.error (.fatal fault))))
  | waits {own idle left batch} :
    a.Intake isOpen remaining records own idle left batch →
    ¬ Complete idle left batch →
    RoundTrace isOpen remaining records own (.ends .waiting)
  | goesOn {own idle left batch} :
    a.Intake isOpen remaining records own idle left batch →
    ¬ Complete idle left batch →
    RoundTrace isOpen remaining records own (.goesOn left batch)

/-- What a poll adds to the journal, and what it comes to. -/
inductive PollTrace (isOpen : Bool) : Nat → List FeedRecord → List Entry → Poll → Prop where
  | stopped {remaining records} :
    PollTrace isOpen remaining records [.flagRead false] (.done (.ok records))
  | ends {remaining records own poll} :
    a.RoundTrace isOpen remaining records own (.ends poll) →
    PollTrace isOpen remaining records (.flagRead true :: own) poll
  | goesOn {remaining records own left middle rest poll} :
    a.RoundTrace isOpen remaining records own (.goesOn left middle) →
    PollTrace isOpen left middle rest poll →
    PollTrace isOpen remaining records (.flagRead true :: own ++ rest) poll

end Assembler

/-- Whether the entry tells of events and faults on their way, and of nothing else. -/
def Entry.isTraffic : Entry → Bool
  | dequeued _ | waited | faultTaken _ | flagRead _ => true
  | x => x.isEffect

/-- An effect of processing is traffic. -/
lemma Entry.isTraffic_of_isEffect {x : Entry} (hx : x.isEffect) : x.isTraffic := by
  cases x <;> first | rfl | exact hx

/-- Clearing up is traffic. -/
lemma Entry.isTraffic_of_isClearing {x : Entry} (hx : x.isClearing) : x.isTraffic := by
  cases x <;> first | rfl | cases hx

/-- Asking the filter and the source handler is an effect of processing. -/
lemma Pipeline.isEffect_of_mem_inquiries {p : Pipeline} {e : Event} {x : Entry}
    (hx : x ∈ p.inquiries e) : x.isEffect := by
  rcases List.mem_append.1 hx with hx | hx
  · obtain ⟨f, -, rfl⟩ := Option.map_eq_some_iff.1 (Option.mem_toList.1 hx)
    rfl
  · split at hx
    · cases hx
    · cases hx
    · obtain rfl := List.mem_singleton.1 hx
      rfl

namespace Assembler

variable (a : Assembler)

/-- A block holds the effects of its event and nothing else. -/
lemma Block.isEffect {a : Assembler} {isOpen : Bool} {e : Event} {own : List Entry}
    (hb : a.Block isOpen e own) {x : Entry} (hx : x ∈ own) : x.isEffect := by
  cases hb with
  | failed _ =>
    rcases List.mem_append.1 hx with hx | hx
    · exact Pipeline.isEffect_of_mem_inquiries hx
    · exact Message.isEffect_of_mem_parting hx
  | converted _ ht =>
    simp only [List.append_assoc, List.cons_append, List.mem_append, List.mem_cons] at hx
    rcases hx with hx | rfl | hx | hx
    · exact Pipeline.isEffect_of_mem_inquiries hx
    · rfl
    · exact ht.isEffect hx
    · obtain rfl := Message.eq_of_mem_releases hx
      rfl

section

variable {a : Assembler} {isOpen idle : Bool} {remaining left : Nat}
  {records middle : List FeedRecord} {own : List Entry} {x : Entry}

/-- An intake is traffic. -/
lemma Intake.isTraffic (hi : a.Intake isOpen remaining records own idle left middle)
    (hx : x ∈ own) : x.isTraffic := by
  cases hi with
  | event hb _ =>
    rcases List.mem_cons.1 hx with rfl | hx
    · rfl
    · exact Entry.isTraffic_of_isEffect (hb.isEffect hx)
  | idle =>
    obtain rfl := List.mem_singleton.1 hx
    rfl

/-- A round is traffic. -/
lemma RoundTrace.isTraffic {round : Round} (hr : a.RoundTrace isOpen remaining records own round)
    (hx : x ∈ own) : x.isTraffic := by
  cases hr with
  | failed hb _ =>
    rcases List.mem_cons.1 hx with rfl | hx
    · rfl
    · exact Entry.isTraffic_of_isEffect (hb.isEffect hx)
  | returns hi _ =>
    rcases List.mem_append.1 hx with hx | hx
    · exact hi.isTraffic hx
    · obtain rfl := List.mem_singleton.1 hx
      rfl
  | fault hi _ =>
    rcases List.mem_append.1 hx with hx | hx
    · exact hi.isTraffic hx
    · obtain rfl := List.mem_singleton.1 hx
      rfl
  | waits hi _ => exact hi.isTraffic hx
  | goesOn hi _ => exact hi.isTraffic hx

/-- A poll adds nothing but traffic. -/
lemma PollTrace.isTraffic {poll : Poll} (ht : a.PollTrace isOpen remaining records own poll)
    (hx : x ∈ own) : x.isTraffic := by
  induction ht with
  | stopped =>
    obtain rfl := List.mem_singleton.1 hx
    rfl
  | ends hr =>
    rcases List.mem_cons.1 hx with rfl | hx
    · rfl
    · exact hr.isTraffic hx
  | goesOn hr _ ih =>
    rcases List.mem_cons.1 hx with rfl | hx
    · rfl
    · rcases List.mem_append.1 hx with hx | hx
      · exact hr.isTraffic hx
      · exact ih hx

end

/-- Processing an event takes none. -/
lemma dequeues_process (e : Event) (h : Hub) : h.Dequeues [] (a.process e h).2 :=
  (a.reaches_process (s := 0) (g := 0) e).dequeues_nil

/-- A poll takes some events. -/
lemma dequeues_poll (h : Hub) : ∃ events, h.Dequeues events (a.poll h).2 :=
  (a.reaches_poll (h := h) (s := 0) (g := 0)).dequeues

/-- Processing an event adds its block. -/
lemma adds_process (e : Event) (h : Hub) :
    ∃ own, a.Block h.bridge.isSome e own ∧ Hub.Adds own h (a.process e h).2 := by
  have hr := a.pipeline.adds_run e h
  have hb := a.pipeline.isSome_bridge_run e h
  have hres := a.pipeline.run_fst e h
  unfold process
  -- a failed conversion is released at once; else the acknowledgement comes first
  split
  · rename_i cause k hk
    rw [hk] at hr hres
    have hl := Hub.adds_releaseOrLog .abandonedFailure e.message k.yield
    exact ⟨_, .failed hres.symm, hr.trans (.nil_trans (Hub.adds_yield k) hl)⟩
  · rename_i converted k hk
    rw [hk] at hr hb hres
    obtain ⟨hooks, ht, ha⟩ := Hub.adds_acknowledge e k
    rw [hb] at ht
    have hy : Hub.Adds _ h (k.acknowledge e).yield := (hr.trans ha).trans_nil (Hub.adds_yield _)
    have hl := hy.trans (Hub.adds_release e.message (k.acknowledge e).yield)
    refine ⟨_, .converted hres.symm ht, ?_⟩
    split <;> rename_i heq <;> rw [heq] at hl <;> exact hl

/-- A round adds its trace. -/
lemma adds_round (remaining : Nat) (records : List FeedRecord) (h : Hub) :
    ∃ own, a.RoundTrace h.bridge.isSome remaining records own (a.round remaining records h).1 ∧
      Hub.Adds own h (a.round remaining records h).2 := by
  unfold round
  split
  · rename_i e k hd
    have hs : k.bridge.isSome = h.bridge.isSome := (Hub.dequeues_dequeue_some hd).isSome_bridge
    obtain ⟨block, hb, hp⟩ := a.adds_process e k
    rw [hs] at hb
    have ho := a.process_fst e k
    have hk : Hub.Adds (.dequeued e :: block) h (a.process e k).2 :=
      (Hub.adds_dequeue_some hd).trans hp
    -- the batch may be complete before the fault slot is looked at
    split
    · rename_i cause l hl
      rw [hl] at ho hk
      exact ⟨_, .failed hb ho.symm, hk⟩
    · rename_i record l hl
      rw [hl] at ho hk
      have hi : a.Intake h.bridge.isSome remaining records (.dequeued e :: block) false
          (remaining - 1) (records ++ record.toList) := .event hb ho.symm
      have ht := hk.trans (Hub.adds_takeFault l)
      dsimp only
      split
      · rename_i hc
        refine ⟨_, .returns hi ⟨by simpa using hc.1, .inl hc.2⟩, hk.trans (Hub.adds_log _ l)⟩
      · rename_i hc
        have hn : ¬ Complete false (remaining - 1) (records ++ record.toList) := by
          simpa [Complete] using hc
        split <;> rename_i hf <;> rw [hf] at ht
        · exact ⟨_, .fault hi hn, ht⟩
        · exact ⟨_, .goesOn hi hn, by simpa using ht⟩
  · rename_i k hd
    have hk := Hub.adds_dequeue_none hd
    have hi : a.Intake h.bridge.isSome remaining records [.waited] true remaining records := .idle
    have ht := hk.trans (Hub.adds_takeFault k)
    split
    · rename_i hc
      exact ⟨_, .returns hi ⟨by simpa using hc, .inr rfl⟩, hk.trans (Hub.adds_log _ k)⟩
    · rename_i hc
      have hn : ¬ Complete true remaining records := by simpa [Complete] using hc
      split <;> rename_i hf <;> rw [hf] at ht
      · exact ⟨_, .fault hi hn, ht⟩
      · split
        · exact ⟨_, .waits hi hn, by simpa using ht⟩
        · exact ⟨_, .goesOn hi hn, by simpa using ht⟩

/-- A round neither opens nor closes the bridge. -/
lemma isSome_bridge_round (remaining : Nat) (records : List FeedRecord) (h : Hub) :
    (a.round remaining records h).2.bridge.isSome = h.bridge.isSome := by
  obtain ⟨events, hc⟩ := a.collects_round remaining records h
  exact hc.dequeues.isSome_bridge

/-- Reading the flag neither opens nor closes the bridge. -/
lemma isSome_bridge_readFlag (h : Hub) : h.readFlag.2.bridge.isSome = h.bridge.isSome :=
  (Hub.reaches_readFlag (s := 0) (g := 0)).dequeues_nil.isSome_bridge

/-- A poll with a batch in hand adds its trace. -/
lemma adds_pollFrom (remaining : Nat) (records : List FeedRecord) (h : Hub) :
    ∃ own, a.PollTrace h.bridge.isSome remaining records own (a.pollFrom remaining records h).1 ∧
      Hub.Adds own h (a.pollFrom remaining records h).2 := by
  -- one case for each way in which a round ends; a round that goes on is followed by the rest
  fun_induction pollFrom a remaining records h with
  | case1 remaining records h k hk =>
    have hf := Hub.adds_readFlag h
    rw [hk] at hf
    exact ⟨_, .stopped, hf⟩
  | case2 remaining records h k hk poll l hr =>
    have hf := Hub.adds_readFlag h
    have hb := isSome_bridge_readFlag h
    obtain ⟨own, ht, ha⟩ := a.adds_round remaining records k
    rw [hk] at hf hb
    rw [hr, hb] at ht
    rw [hr] at ha
    exact ⟨_, .ends ht, hf.trans ha⟩
  | case3 remaining records h k hk left middle l hr ih =>
    have hf := Hub.adds_readFlag h
    have hb := isSome_bridge_readFlag h
    have hs := a.isSome_bridge_round remaining records k
    obtain ⟨own, ht, ha⟩ := a.adds_round remaining records k
    obtain ⟨rest, hrest, hl⟩ := ih
    rw [hk] at hf hb
    rw [hr] at hs ha
    rw [hr, hb] at ht
    rw [hs, hb] at hrest
    exact ⟨_, .goesOn ht hrest, (hf.trans ha).trans hl⟩

/-- A poll adds its trace. -/
lemma adds_poll (h : Hub) :
    ∃ own, a.PollTrace h.bridge.isSome a.limit.1 [] own (a.poll h).1 ∧
      Hub.Adds own h (a.poll h).2 :=
  a.adds_pollFrom a.limit.1 [] h

end Assembler

end ChangeFeed
