import ChangeFeed.Proofs.Batch.Trace
import ChangeFeed.Proofs.Feed.Startup

/-!
# What a call adds to the journal

`StartTrace` and `StopTrace` spell out what the two ends of a feed's life come to: how far a start
got and what it left behind, and in which order a stop tells the reader to end, waits for it, and
releases what still waits. What polls and conversions add is in the module on batches.
-/

namespace ChangeFeed

/-- Faults that are taken from the slot and logged because nobody will see them. -/
inductive ClearTrace : List Entry → Prop where
  | nil : ClearTrace []
  | cons {fault rest} :
    ClearTrace rest →
    ClearTrace (.faultTaken fault :: .logged (Feed.discardLine fault) :: rest)

/-- Waiting for a reader: the slot is cleared before each slice. -/
inductive JoinTrace : List Entry → Prop where
  | last {cleared slice status} :
    ClearTrace cleared →
    JoinTrace (cleared ++ [.joined slice status])
  | again {cleared slice status rest} :
    ClearTrace cleared →
    JoinTrace rest →
    JoinTrace (cleared ++ .joined slice status :: rest)

/-- Ending a reader: it is told to end, and waited for. -/
inductive EndTrace : List Entry → Prop where
  | ended {joins} :
    JoinTrace joins →
    EndTrace (.shutDown :: joins)
  | stubborn {joins timeout} :
    JoinTrace joins →
    EndTrace (.shutDown :: joins ++ [.logged (Feed.stubbornLine timeout)])

/-- Releasing events in order, with a line for each failure. -/
inductive ReleaseTrace : List Event → List Entry → Prop where
  | nil : ReleaseTrace [] []
  | cons {e level events rest} :
    ReleaseTrace events rest →
    ReleaseTrace (e :: events) (e.message.parting (.leftoverFailure level) ++ rest)

/-- Closing a bridge, if there is one: the events that wait are taken and released, and those that
came too late for that are let go of. -/
inductive CloseTrace : List Entry → Prop where
  | closed : CloseTrace []
  | opened {events released level} {late : List Event} :
    ReleaseTrace events released →
    CloseTrace (events.map Entry.dequeued ++
      .logged (.info "releasing unconsumed events" [("n", .number events.length)]) :: released ++
      late.flatMap fun e => e.message.parting (.droppedFailure level))

/-- A stop: the reader is ended if there is one, and then the bridge is closed. -/
inductive StopTrace (hasReader : Bool) : List Entry → Prop where
  | idle {own} :
    hasReader = false →
    CloseTrace own →
    StopTrace hasReader own
  | running {ending own} :
    hasReader = true →
    EndTrace ending →
    CloseTrace own →
    StopTrace hasReader (ending ++ own)

section

variable {own : List Entry} {x : Entry}

/-- Clearing the slot is clearing up. -/
lemma ClearTrace.isClearing (ht : ClearTrace own) (hx : x ∈ own) : x.isClearing := by
  induction ht with
  | nil => cases hx
  | cons _ ih =>
    rcases List.mem_cons.1 hx with rfl | hx
    · rfl
    · rcases List.mem_cons.1 hx with rfl | hx
      · rfl
      · exact ih hx

/-- Releasing what waits is clearing up. -/
lemma ReleaseTrace.isClearing {events : List Event} (ht : ReleaseTrace events own)
    (hx : x ∈ own) : x.isClearing := by
  induction ht with
  | nil => cases hx
  | cons _ ih =>
    rcases List.mem_append.1 hx with hx | hx
    · exact Message.isClearing_of_mem_parting hx
    · exact ih hx

/-- Closing the bridge is clearing up. -/
lemma CloseTrace.isClearing (ht : CloseTrace own) (hx : x ∈ own) : x.isClearing := by
  cases ht with
  | closed => cases hx
  | opened hr =>
    simp only [List.append_assoc, List.cons_append, List.mem_append, List.mem_map, List.mem_cons,
      List.mem_flatMap] at hx
    obtain ⟨e, -, rfl⟩ | rfl | hx | ⟨e, -, hx⟩ := hx
    · rfl
    · rfl
    · exact hr.isClearing hx
    · exact Message.isClearing_of_mem_parting hx

end

namespace Feed

variable {ρ : Type}

/-- What a start comes to. It is refused, or it fails before saved positions are asked for, or
because of what they are, or it opens a bridge and asks for a reader, which it does not get or
gets. -/
inductive StartTrace (f : Feed ρ) : Except FeedError Unit → Feed ρ → Prop where
  | refused :
    f.state ≠ .new →
    StartTrace f (.error (.alreadyStarted f.state)) f
  | unread {cause k} :
    f.state = .new →
    Hub.Adds [] f.hub k →
    f.hub.Dequeues [] k →
    StartTrace f (.error (.config cause)) { f with state := .starting, hub := k }
  | undecoded {cause asked k} :
    f.state = .new →
    Hub.Adds [.consulted asked, .logged rawOffsetsLine] f.hub k →
    f.hub.Dequeues [] k →
    StartTrace f (.error (.offsets cause)) { f with state := .starting, hub := k }
  | unlaunched {cause asked context a k} :
    f.state = .new →
    Hub.Adds [.consulted asked, .logged rawOffsetsLine, .logged positionsLine,
      .launched context false] f.hub k →
    k.bridge.isSome = true →
    (f.hub.bridge = none → f.hub.openBridge.Dequeues [] k) →
    StartTrace f (.error (.readerStart cause))
      { f with state := .starting, assembler := some a, hub := k }
  | launched {asked context a reader k} :
    f.state = .new →
    Hub.Adds [.consulted asked, .logged rawOffsetsLine, .logged positionsLine,
      .launched context true, .logged (startLine context.config)] f.hub k →
    k.bridge.isSome = true →
    (f.hub.bridge = none → f.hub.openBridge.Dequeues [] k) →
    StartTrace f (.ok ())
      { f with state := .running, assembler := some a, reader := some reader, hub := k }

/-- Nothing is added until the configuration is accepted. -/
lemma adds_configured (f : Feed ρ) (config : FeedConfig) :
    Hub.Adds [] f.hub (f.configured config) :=
  (Hub.adds_yield f.hub).trans_nil (.same rfl rfl)

/-- The storage is asked for the saved positions. -/
lemma adds_consulting (f : Feed ρ) (config : FeedConfig) :
    Hub.Adds [.consulted config.asked, .logged rawOffsetsLine] f.hub (f.consulting config) :=
  ((f.adds_configured config).trans_nil (Hub.adds_yield _)).nil_trans
    ((Hub.adds_record (.consulted config.asked) _).trans (Hub.adds_log rawOffsetsLine _))

/-- Until the running flag is set nothing is added but that positions were asked for. -/
lemma adds_raised (f : Feed ρ) (config : FeedConfig) :
    Hub.Adds [.consulted config.asked, .logged rawOffsetsLine, .logged positionsLine] f.hub
      (f.raised config) :=
  (((f.adds_consulting config).trans (Hub.adds_log positionsLine _)).trans_nil
    (Hub.adds_yield _)).trans_nil (.same rfl rfl)

/-- Opening the bridge adds nothing, nor does what the reader does when it is started. -/
lemma adds_launching (f : Feed ρ) (config : FeedConfig) (ms : List Move) :
    Hub.Adds [] (f.raised config) (Hub.moves ms (f.opening config)) :=
  ((Hub.adds_yield (f.raised config)).trans_nil (.same rfl rfl)).trans_nil (Hub.adds_moves ms _)

/-- Until the reader is asked for, and by what it does then, nothing is added but that positions
were asked for. -/
lemma adds_opening (f : Feed ρ) (config : FeedConfig) (ms : List Move) :
    Hub.Adds [.consulted config.asked, .logged rawOffsetsLine, .logged positionsLine] f.hub
      (Hub.moves ms (f.opening config)) :=
  (f.adds_raised config).trans_nil (f.adds_launching config ms)

/-- Nothing is taken until the configuration is accepted. -/
lemma dequeues_configured (f : Feed ρ) (config : FeedConfig) :
    f.hub.Dequeues [] (f.configured config) :=
  (Hub.dequeues_yield f.hub).trans (.same rfl rfl)

/-- Asking for the saved positions takes nothing. -/
lemma dequeues_consulting (f : Feed ρ) (config : FeedConfig) :
    f.hub.Dequeues [] (f.consulting config) :=
  (((f.dequeues_configured config).trans (Hub.dequeues_yield _)).trans
    (Hub.dequeues_note rfl _)).trans (Hub.dequeues_note rfl _)

/-- Once the bridge is open a start takes nothing from it. -/
lemma dequeues_opening (f : Feed ρ) (config : FeedConfig) (ms : List Move)
    (hb : f.hub.bridge = none) :
    f.hub.openBridge.Dequeues [] (Hub.moves ms (f.opening config)) := by
  have hp : f.hub.Dequeues [] ((f.consulting config).log positionsLine) :=
    (f.dequeues_consulting config).trans (Hub.dequeues_note rfl _)
  have hr : ((f.consulting config).log positionsLine).Dequeues [] (f.raised config) :=
    (Hub.dequeues_yield _).trans (.same rfl rfl)
  have ho := ((hp.trans hr).trans (Hub.dequeues_yield _)).openBridge hb
  exact ho.trans (Hub.dequeues_moves ms _)

/-- The bridge is open when the reader is asked for. -/
lemma isSome_bridge_opening (f : Feed ρ) (config : FeedConfig) (ms : List Move) :
    (Hub.moves ms (f.opening config)).bridge.isSome = true :=
  (Hub.dequeues_moves ms (f.opening config)).isSome_bridge

/-- A start comes to what its trace says. -/
lemma startTrace (f : Feed ρ) (properties : Properties) :
    f.StartTrace (f.start properties).1 (f.start properties).2 := by
  by_cases hn : f.state = .new
  · obtain ⟨result, g, hs⟩ := f.exists_staged properties
    rw [hs.start_eq hn]
    cases hs with
    | unaccepted _ => exact .unread hn .refl .refl
    | unresolved _ _ => exact .unread hn (f.adds_configured _) (f.dequeues_configured _)
    | undecoded _ _ => exact .undecoded hn (f.adds_consulting _) (f.dequeues_consulting _)
    | unlaunched _ _ =>
      exact .unlaunched hn ((f.adds_opening _ _).trans (Hub.adds_record _ _))
        (f.isSome_bridge_opening _ _)
        fun hb => (f.dequeues_opening _ _ hb).trans (Hub.dequeues_note rfl _)
    | launched _ _ =>
      exact .launched hn
        (((f.adds_opening _ _).trans (Hub.adds_record _ _)).trans (Hub.adds_log _ _))
        (f.isSome_bridge_opening _ _)
        fun hb => ((f.dequeues_opening _ _ hb).trans (Hub.dequeues_note rfl _)).trans
          (Hub.dequeues_note rfl _)
  · rw [start_of_ne_new properties hn]
    exact .refused hn

/-- Discarding faults adds its trace. -/
lemma adds_discardFaults (h : Hub) :
    ∃ own, ClearTrace own ∧ Hub.Adds own h (discardFaults h) := by
  have ht := Hub.adds_takeFault h
  fun_induction discardFaults h with
  | case1 h k hk =>
    rw [hk] at ht
    exact ⟨[], .nil, ht⟩
  | case2 h fault k hk l hs ih =>
    rw [hk] at ht
    obtain ⟨rest, hc, ha⟩ := ih (Hub.adds_takeFault _)
    exact ⟨_, .cons hc, (ht.trans (Hub.adds_log _ k)).trans ha⟩
  | case3 h fault k hk l hs =>
    rw [hk] at ht
    exact ⟨_, .cons .nil, ht.trans (Hub.adds_log _ k)⟩

/-- Joining a reader adds its trace. -/
lemma adds_joinReader [Reader ρ] (remaining : Span) (r : ρ) (h : Hub) :
    ∃ own, JoinTrace own ∧ Hub.Adds own h (joinReader remaining r h).2.2 := by
  -- one case for the last slice of the wait, and one for a slice that is followed by others
  fun_induction joinReader remaining r h with
  | case1 remaining r h k slice status moves r' hj l hr =>
    obtain ⟨cleared, hc, ha⟩ := adds_discardFaults h
    have hl := (Hub.adds_record (.joined slice status) k).trans_nil (Hub.adds_moves moves _)
    exact ⟨_, .last hc, ha.trans hl⟩
  | case2 remaining r h k slice status moves r' hj l hr ih =>
    obtain ⟨cleared, hc, ha⟩ := adds_discardFaults h
    obtain ⟨rest, ht, hrest⟩ := ih
    have hl := (Hub.adds_record (.joined slice status) k).trans_nil (Hub.adds_moves moves _)
    exact ⟨_, .again hc ht, ha.trans (hl.trans hrest)⟩

/-- Ending a reader adds its trace. -/
lemma adds_endReader [Reader ρ] (timeout : Span) (r : ρ) (h : Hub) :
    ∃ own, EndTrace own ∧ Hub.Adds own h (endReader timeout r h) := by
  obtain ⟨joins, ht, ha⟩ := adds_joinReader timeout (Reader.shutDown r) (h.record .shutDown)
  have hj := (Hub.adds_record .shutDown h).trans ha
  unfold endReader
  split <;> rename_i hk <;> rw [hk] at hj
  · exact ⟨_, .ended ht, hj⟩
  · exact ⟨_, .stubborn ht, hj.trans (Hub.adds_log _ _)⟩

/-- Releasing events one after the other, as far as the hub goes. -/
lemma releaseAll_cons_snd (e : Event) (rest : List Event) (h : Hub) :
    (releaseAll (e :: rest) h).2 =
      (releaseAll rest (h.yield.releaseOrLog .leftoverFailure e.message)).2 := by
  rw [releaseAll, Hub.releaseOrLog]
  obtain ⟨result, k⟩ := h.yield.release e.message
  cases result <;> rfl

/-- Releasing events adds its trace. -/
lemma adds_releaseAll (events : List Event) (h : Hub) :
    ∃ own, ReleaseTrace events own ∧ Hub.Adds own h (releaseAll events h).2 := by
  induction events generalizing h with
  | nil => exact ⟨[], .nil, .refl⟩
  | cons e rest ih =>
    obtain ⟨own, ht, ha⟩ := ih (h.yield.releaseOrLog .leftoverFailure e.message)
    have hl := Hub.adds_releaseOrLog .leftoverFailure e.message h.yield
    rw [releaseAll_cons_snd]
    exact ⟨_, .cons ht, ((Hub.adds_yield h).nil_trans hl).trans ha⟩

/-- Letting go of a bridge lets go of the events that are in it. -/
lemma adds_letGo (h : Hub) :
    ∃ late : List Event,
      Hub.Adds (late.flatMap fun e => e.message.parting (.droppedFailure h.redaction)) h
        h.closeBridge :=
  ⟨h.resident, h.adds_closeBridge⟩

/-- Releasing what waits and closing the bridge adds its trace. -/
lemma adds_closeBridge (h : Hub) :
    ∃ own, CloseTrace own ∧ Hub.Adds own h (closeBridge h).2 := by
  unfold closeBridge
  split
  · exact ⟨[], .closed, .refl⟩
  · have hd := (Hub.adds_drain h).trans (Hub.adds_log
      (.info "releasing unconsumed events" [("n", .number h.drain.1.length)]) h.drain.2)
    obtain ⟨released, ht, ha⟩ := adds_releaseAll h.drain.1 (h.drain.2.log _)
    obtain ⟨late, hl⟩ := adds_letGo (releaseAll h.drain.1 (h.drain.2.log _)).2.yield
    have hy := ((hd.trans ha).trans_nil (Hub.adds_yield _)).trans hl
    exact ⟨_, .opened ht, by simpa using hy⟩

/-- A stop adds its trace. -/
lemma adds_stop [Reader ρ] (f : Feed ρ) :
    ∃ own, StopTrace f.reader.isSome own ∧ Hub.Adds own f.hub f.stop.2.hub := by
  have hf := Hub.adds_setRunning false f.hub
  rw [stop_eq, ended]
  -- the reader, if there is one, is ended before the bridge is drained
  cases f.reader with
  | none =>
    obtain ⟨own, ht, ha⟩ := adds_closeBridge (f.hub.setRunning false)
    exact ⟨own, .idle rfl ht, hf.nil_trans ha⟩
  | some r =>
    obtain ⟨ending, he, hr⟩ := adds_endReader f.context.joinTimeout r (f.hub.setRunning false)
    obtain ⟨own, ht, ha⟩ :=
      adds_closeBridge (endReader f.context.joinTimeout r (f.hub.setRunning false))
    exact ⟨_, .running rfl he ht, (hf.nil_trans hr).trans ha⟩

/-- No bridge is left when it was closed. -/
lemma bridge_closeBridge (h : Hub) : (closeBridge h).2.bridge = none := by
  unfold closeBridge
  split
  · rename_i hb
    exact hb
  · exact Hub.bridge_closeBridge _

/-- Nothing of a feed is left after a stop. -/
lemma parts_stop [Reader ρ] (f : Feed ρ) :
    f.stop.2.state = .stopped ∧ f.stop.2.reader = none ∧ f.stop.2.assembler = none ∧
      f.stop.2.hub.bridge = none := by
  rw [stop_eq]
  exact ⟨rfl, rfl, rfl, bridge_closeBridge _⟩

/-- A poll is refused and changes nothing, or it is a poll of the assembler. -/
lemma poll_cases (f : Feed ρ) :
    (f.polling? = none ∧ f.poll = (.done (.error (.notRunning f.state)), f)) ∨
      ∃ a, f.polling? = some a ∧
        f.poll = ((a.poll f.hub).1, { f with hub := (a.poll f.hub).2 }) := by
  unfold poll
  cases f.polling? with
  | none => exact .inl ⟨rfl, rfl⟩
  | some a => exact .inr ⟨a, rfl, rfl⟩

/-- A conversion is refused, and the event let go of, or it is the work of the assembler. -/
lemma convert_cases (f : Feed ρ) (e : Event) :
    (f.assembler = none ∧
        f.convert e = (.error (.notRunning f.state), f.withHub (·.drop e.message))) ∨
      ∃ a, f.assembler = some a ∧
        f.convert e = ((a.process e f.hub).1, { f with hub := (a.process e f.hub).2 }) := by
  unfold convert
  cases f.assembler with
  | none => exact .inl ⟨rfl, rfl⟩
  | some a => exact .inr ⟨a, rfl, rfl⟩

/-- What the host provides to a feed stays as it is. -/
lemma context_start (f : Feed ρ) (properties : Properties) :
    (f.start properties).2.context = f.context := by
  have ht := f.startTrace properties
  generalize (f.start properties).1 = result, (f.start properties).2 = g at ht
  cases ht <;> rfl

/-- A poll leaves what the host provides. -/
lemma context_poll (f : Feed ρ) : f.poll.2.context = f.context := by
  obtain ⟨-, hp⟩ | ⟨a, -, hp⟩ := f.poll_cases <;> rw [hp]

/-- A conversion leaves what the host provides. -/
lemma context_convert (f : Feed ρ) (e : Event) : (f.convert e).2.context = f.context := by
  obtain ⟨-, hc⟩ | ⟨a, -, hc⟩ := f.convert_cases e
  · rw [hc]
    rfl
  · rw [hc]

/-- A stop leaves what the host provides. -/
lemma context_stop [Reader ρ] (f : Feed ρ) : f.stop.2.context = f.context := by
  rw [stop_eq]

end Feed

end ChangeFeed
