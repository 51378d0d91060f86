import ChangeFeed.Proofs.Feed.Report
import ChangeFeed.Proofs.Feed.Signal
import ChangeFeed.Proofs.Hub.Frame
import ChangeFeed.Proofs.Reader.Thread

/-!
# What a stop does, and what it leaves behind

A stop ends the reader, if there is one, takes every event that is in the bridge by then, releases
these one after the other, and closes the bridge; what comes in between is let go of with the
bridge. A release that fails is told of and changes nothing else, and the first one decides what the
stop comes to. Whatever happens on the way, nothing of the feed is left, and a later stop does
nothing but clear the running flag.
-/

namespace ChangeFeed

/-- The warning that the buffer of an event could not be released, if it cannot. -/
def Event.warning? (line : Message → ReleaseError → LogLine) (e : Event) : Option LogLine :=
  e.message.releaseError?.map (line e.message)

/-- Whether ending a reader can add the entry. -/
def Entry.EndsReader : Entry → Prop
  | faultTaken _ | shutDown | joined _ _ => True
  | logged line =>
    (∃ fault, line = Feed.discardLine fault) ∨ ∃ timeout, line = Feed.stubbornLine timeout
  | _ => False

section

variable {own : List Entry} {x : Entry}

/-- Clearing the slot is part of ending a reader. -/
lemma ClearTrace.endsReader (ht : ClearTrace own) (hx : x ∈ own) : x.EndsReader := by
  induction ht with
  | nil => cases hx
  | cons _ ih =>
    obtain rfl | hx := List.mem_cons.1 hx
    · trivial
    · obtain rfl | hx := List.mem_cons.1 hx
      · exact .inl ⟨_, rfl⟩
      · exact ih hx

/-- Joining is part of ending a reader. -/
lemma JoinTrace.endsReader (ht : JoinTrace own) (hx : x ∈ own) : x.EndsReader := by
  induction ht with
  | last hc =>
    obtain hx | hx := List.mem_append.1 hx
    · exact hc.endsReader hx
    · obtain rfl := List.mem_singleton.1 hx
      trivial
  | again hc _ ih =>
    obtain hx | hx := List.mem_append.1 hx
    · exact hc.endsReader hx
    · obtain rfl | hx := List.mem_cons.1 hx
      · trivial
      · exact ih hx

/-- Telling a reader to end and joining it is part of ending it. -/
lemma EndTrace.endsReader (ht : EndTrace own) (hx : x ∈ own) : x.EndsReader := by
  cases ht with
  | ended hj =>
    obtain rfl | hx := List.mem_cons.1 hx
    · trivial
    · exact hj.endsReader hx
  | stubborn hj =>
    obtain rfl | hx := List.mem_cons.1 hx
    · trivial
    · obtain hx | hx := List.mem_append.1 hx
      · exact hj.endsReader hx
      · obtain rfl := List.mem_singleton.1 hx
        exact .inr ⟨_, rfl⟩

/-- Ending a reader takes no event, acknowledges and releases nothing, and warns of no release. -/
lemma Entry.EndsReader.views (hx : x.EndsReader) :
    x.taken? = none ∧ x.acknowledged? = none ∧ x.released? = none ∧ x.releaseWarning? = none := by
  cases x with
  | logged line => obtain ⟨_, rfl⟩ | ⟨_, rfl⟩ := hx <;> exact ⟨rfl, rfl, rfl, rfl⟩
  | faultTaken _ | shutDown | joined _ _ => exact ⟨rfl, rfl, rfl, rfl⟩
  | _ => cases hx

end

namespace Hub

variable {h k : Hub}

/-- Draining the bridge heeds signals. -/
lemma heeds_drain (h : Hub) : Heeds [] h h.drain.2 := by
  refine (heeds_yield h).trans_nil ?_
  simp only [drain]
  cases h.yield.bridge with
  | none => exact .refl
  | some b =>
    dsimp only
    rw [recordDequeued_eq]
    exact .same rfl rfl

/-- Closing the bridge heeds signals. -/
lemma heeds_closeBridge (h : Hub) : Heeds [] h h.closeBridge := by
  unfold closeBridge
  cases h.bridge with
  | none => exact .refl
  | some b =>
    dsimp only
    rw [dropAll_eq]
    exact .same rfl rfl

/-- After the bridge was emptied nothing waits in it. -/
lemma resident_drain (h : Hub) : h.drain.2.resident = [] := by
  simp only [drain]
  cases hb : h.yield.bridge with
  | none => exact resident_eq_nil hb
  | some b =>
    dsimp only
    rw [recordDequeued_eq]
    rfl

/-- Emptying the bridge takes what it gives. -/
lemma dequeues_drain (h : Hub) : h.Dequeues h.drain.1 h.drain.2 := by
  obtain ⟨events, hd⟩ := (reaches_drain (h := h) (s := 0) (g := 0)).dequeues
  obtain ⟨-, ht, -⟩ := hd.spec
  rw [taken_since h.adds_drain, (views_dequeued _).2.1] at ht
  rwa [ht]

/-- Nothing arrives while a bridge is closed. -/
lemma arrivals_closeBridge (hk : k.journal = h.journal ++ h.since k) :
    h.arrivals k.closeBridge = h.arrivals k := by
  have hs : k.since k.closeBridge =
      k.resident.flatMap fun e => e.message.parting (.droppedFailure k.redaction) := by
    rw [since, k.closeBridge_frame.1, List.drop_left]
  have hj : k.closeBridge.journal = k.journal ++ k.since k.closeBridge := by
    rw [hs, k.closeBridge_frame.1]
  rw [arrivals, arrivals, Handles.since_eq hk hj, accepted_append, hs, (views_partings _ _).2.1,
    List.append_nil]

end Hub

namespace Feed

variable {ρ : Type}

/-- What a stop adds to the journal whose bridge is open: the reader is ended, the events that are
in the bridge by then are taken and released, and those that come later are let go of. -/
def disposal (level : RedactionLevel) (ending : List Entry) (drained late : List Event) :
    List Entry :=
  ending ++ drained.map Entry.dequeued ++ .logged (drainLine drained) ::
    drained.flatMap (fun e => e.message.parting (.leftoverFailure level)) ++
    late.flatMap (fun e => e.message.parting (.droppedFailure level))

section

variable {ending : List Entry}

/-- The warnings of a journal are those of its parts. -/
lemma warnings_append (as bs : List Entry) : warnings (as ++ bs) = warnings as ++ warnings bs :=
  List.filterMap_append

/-- Each release that fails is warned of, in order. -/
lemma warnings_partings {line : Message → ReleaseError → LogLine}
    (hl : ∀ m e, (line m e).isReleaseWarning = true) (events : List Event) :
    warnings (events.flatMap fun e => e.message.parting line) =
      events.filterMap (Event.warning? line) := by
  induction events with
  | nil => rfl
  | cons e rest ih =>
    have hone : warnings (e.message.parting line) = (e.warning? line).toList := by
      rw [Message.parting, warnings_append, Event.warning?]
      have hr : warnings e.message.releases = [] := by
        unfold Message.releases
        split <;> rfl
      rw [hr, List.nil_append]
      cases e.message.releaseError? with
      | none => rfl
      | some cause => simp [warnings, Entry.releaseWarning?, hl]
    rw [List.flatMap_cons, warnings_append, ih, hone, List.filterMap_cons]
    cases e.warning? line <;> rfl

/-- What ends a reader does not show in a view that shows none of its entries. -/
lemma filterMap_endsReader {β : Type} {view : Entry → Option β}
    (hv : ∀ x : Entry, x.EndsReader → view x = none) (he : ∀ x ∈ ending, x.EndsReader) :
    ending.filterMap view = [] :=
  List.filterMap_eq_nil_iff.2 fun x hx => hv x (he x hx)

/-- What a stop releases is what was drained, and then what came too late for that, with a warning
for each failure. -/
lemma views_disposal (level : RedactionLevel) (drained late : List Event)
    (he : ∀ x ∈ ending, x.EndsReader) :
    released (disposal level ending drained late) = buffered drained ++ buffered late ∧
      warnings (disposal level ending drained late) =
        drained.filterMap (Event.warning? (.leftoverFailure level)) ++
          late.filterMap (Event.warning? (.droppedFailure level)) := by
  have hr : released ending = [] := filterMap_endsReader (fun _ hx => hx.views.2.2.1) he
  have hw : warnings ending = [] := filterMap_endsReader (fun _ hx => hx.views.2.2.2) he
  have hd : warnings (drained.map Entry.dequeued) = [] := by
    rw [warnings, List.filterMap_map]
    exact List.filterMap_eq_nil_iff.2 fun _ _ => rfl
  have hlr (events : List Event) (rest : List Entry) :
      released (.logged (drainLine events) :: rest) = released rest := rfl
  have hlw (events : List Event) (rest : List Entry) :
      warnings (.logged (drainLine events) :: rest) = warnings rest := rfl
  refine ⟨?_, ?_⟩
  · rw [disposal, released_append, released_append, released_append, hlr, hr,
      (views_dequeued _).2.2, (views_partings _ _).1, (views_partings _ _).1]
    rfl
  · rw [disposal, warnings_append, warnings_append, warnings_append, hlw, hw, hd,
      warnings_partings fun _ _ => rfl, warnings_partings fun _ _ => rfl]
    rfl

end

/-- The first event that cannot be released decides what releasing all of them comes to. -/
lemma releaseAll_eq_findSome? (events : List Event) (h : Hub) :
    (releaseAll events h).1 = events.findSome? (·.message.releaseError?) := by
  rw [releaseAll_fst]
  induction events with
  | nil => rfl
  | cons e rest ih =>
    rw [List.findSome?_cons, ← ih]
    cases he : e.message.releaseError? <;> simp [unreleasable, he]

/-- Discarding faults leaves the redaction level. -/
lemma redaction_discardFaults (h : Hub) : (discardFaults h).redaction = h.redaction := by
  have ht := h.redaction_takeFault
  fun_induction discardFaults h with
  | case1 h k hk =>
    rw [hk] at ht
    exact ht
  | case2 h fault k hk l hs ih =>
    rw [hk] at ht
    exact (ih l.redaction_takeFault).trans ht
  | case3 h fault k hk l hs =>
    rw [hk] at ht
    exact ht

/-- Joining a reader leaves the redaction level. -/
lemma redaction_joinReader [Reader ρ] (remaining : Span) (r : ρ) (h : Hub) :
    (joinReader remaining r h).2.2.redaction = h.redaction := by
  fun_induction joinReader remaining r h with
  | case1 remaining r h k slice status moves r' hj l hr =>
    exact (Hub.redaction_moves moves _).trans (redaction_discardFaults h)
  | case2 remaining r h k slice status moves r' hj l hr ih =>
    exact ih.trans ((Hub.redaction_moves moves _).trans (redaction_discardFaults h))

/-- Ending a reader leaves the redaction level. -/
lemma redaction_endReader [Reader ρ] (timeout : Span) (r : ρ) (h : Hub) :
    (endReader timeout r h).redaction = h.redaction := by
  have hj := redaction_joinReader timeout (Reader.shutDown r) (h.record .shutDown)
  unfold endReader
  split <;> rename_i hk <;> rw [hk] at hj <;> exact hj

/-- Releasing events notes the parting of each of them. -/
lemma adds_partings (events : List Event) (h : Hub) :
    Hub.Adds (events.flatMap fun e => e.message.parting (.leftoverFailure h.redaction)) h
        (releaseAll events h).2 ∧
      (releaseAll events h).2.redaction = h.redaction := by
  induction events generalizing h with
  | nil => exact ⟨.refl, rfl⟩
  | cons e rest ih =>
    have hl := Hub.adds_releaseOrLog .leftoverFailure e.message h.yield
    have hlevel : (h.yield.releaseOrLog .leftoverFailure e.message).redaction = h.redaction :=
      (Hub.Notes.releaseOrLog _ _).redaction.trans h.redaction_yield
    obtain ⟨ha, hr⟩ := ih (h.yield.releaseOrLog .leftoverFailure e.message)
    rw [hlevel] at ha hr
    rw [Hub.redaction_yield] at hl
    rw [releaseAll_cons_snd, List.flatMap_cons]
    exact ⟨((Hub.adds_yield h).nil_trans hl).trans ha, hr⟩

/-- A hub whose bridge was emptied and the events from it released, before the bridge is closed. -/
def emptied (h : Hub) : Hub :=
  (releaseAll h.drain.1 (h.drain.2.log (drainLine h.drain.1))).2.yield

/-- An open bridge is closed after what waits in it was drained and released, and the first failure
counts. -/
lemma closeBridge_of_isSome {h : Hub} (hb : h.bridge.isSome) :
    closeBridge h =
      (h.drain.1.findSome? (·.message.releaseError?), (emptied h).closeBridge) := by
  obtain ⟨b, hb⟩ := Option.isSome_iff_exists.1 hb
  rw [← releaseAll_eq_findSome? _ (h.drain.2.log (drainLine h.drain.1))]
  unfold closeBridge
  rw [hb]
  rfl

/-- Closing a bridge that is not there does nothing. -/
lemma closeBridge_of_none {h : Hub} (hb : h.bridge = none) : closeBridge h = (none, h) := by
  unfold closeBridge
  rw [hb]

/-- Emptying a bridge takes everything from it, notes the partings, and takes nothing after that. -/
lemma adds_emptied (h : Hub) :
    Hub.Adds (h.drain.1.map Entry.dequeued ++ .logged (drainLine h.drain.1) ::
        h.drain.1.flatMap (fun e => e.message.parting (.leftoverFailure h.redaction))) h
        (emptied h) ∧
      (emptied h).redaction = h.redaction ∧ h.drain.2.Dequeues [] (emptied h) := by
  have hlog := Hub.adds_log (drainLine h.drain.1) h.drain.2
  obtain ⟨ha, hr⟩ := adds_partings h.drain.1 (h.drain.2.log (drainLine h.drain.1))
  have hlevel : (h.drain.2.log (drainLine h.drain.1)).redaction = h.redaction := h.redaction_drain
  rw [hlevel] at ha hr
  refine ⟨?_, ?_, ?_⟩
  · exact (h.adds_drain.trans (hlog.trans ha)).trans_nil (Hub.adds_yield _)
  · exact (Hub.redaction_yield _).trans hr
  · have hq := (reaches_releaseAll (h := h.drain.2.log (drainLine h.drain.1)) (s := 0) (g := 0)
      h.drain.1).dequeues_nil
    exact ((Hub.dequeues_note rfl h.drain.2).trans hq).trans (Hub.dequeues_yield _)

/-- What ends the reader of a feed, if it has one. -/
structure Ends (f : Feed ρ) (ending : List Entry) : Prop where
  reader : f.reader.isSome → EndTrace ending
  idle : f.reader = none → ending = []

/-- What ends the reader of a feed, if there is one, is part of ending a reader. -/
lemma Ends.endsReader {f : Feed ρ} {ending : List Entry} (he : f.Ends ending) :
    ∀ x ∈ ending, x.EndsReader := by
  intro x hx
  cases hr : f.reader with
  | none =>
    rw [he.idle hr] at hx
    cases hx
  | some r => exact (he.reader (by rw [hr]; rfl)).endsReader hx

section

variable [Reader ρ]

/-- What a stop adds before it closes the bridge ends the reader, if there is one. -/
lemma adds_ended (f : Feed ρ) :
    (∃ ending, f.Ends ending ∧ Hub.Adds ending f.hub f.ended) ∧
      f.ended.redaction = f.hub.redaction := by
  have hs := Hub.adds_setRunning false f.hub
  unfold ended
  cases hr : f.reader with
  | none => exact ⟨⟨[], ⟨by simp [hr], fun _ => rfl⟩, hs⟩, rfl⟩
  | some r =>
    obtain ⟨ending, ht, ha⟩ := adds_endReader f.context.joinTimeout r (f.hub.setRunning false)
    exact ⟨⟨ending, ⟨fun _ => ht, by simp [hr]⟩, hs.nil_trans ha⟩, redaction_endReader _ r _⟩

/-- Ending the reader takes no event. -/
lemma dequeues_ended (f : Feed ρ) : f.hub.Dequeues [] f.ended := by
  obtain ⟨⟨ending, he, ha⟩, -⟩ := f.adds_ended
  have hn : taken ending = [] := filterMap_endsReader (fun _ hx => hx.views.1) he.endsReader
  obtain ⟨events, hd⟩ := (f.reaches_ended (s := 0) (g := 0)).dequeues
  obtain ⟨-, ht, -⟩ := hd.spec
  rw [taken_since ha, hn] at ht
  rwa [ht]

/-- A stop with an open bridge. The reader, if there is one, is ended, and then everything is
released that waited when the stop was called or arrived by then, in this order. What arrives later
is let go of, and nothing else is done. -/
structure Disposes (f : Feed ρ) (ending : List Entry) (drained late : List Event) : Prop where
  ends : f.Ends ending
  before : f.hub.arrivals f.ended <+: drained
  taken : f.hub.arrivals f.ended.drain.2 = drained
  after : f.hub.arrivals f.stop.2.hub = drained ++ late
  adds : Hub.Adds (disposal f.hub.redaction ending drained late) f.hub f.stop.2.hub

/-- A stop with an open bridge disposes of everything, and comes to the first release that fails. -/
lemma disposes {f : Feed ρ} (hb : f.hub.bridge.isSome) :
    ∃ ending drained late, f.Disposes ending drained late ∧
      f.stop.1 = (drained.findSome? (·.message.releaseError?)).elim (.ok ()) fun e =>
        .error (.release e) := by
  obtain ⟨⟨ending, he, hadds⟩, hlevel⟩ := f.adds_ended
  obtain ⟨hempty, hl, hq⟩ := adds_emptied f.ended
  have hended := f.dequeues_ended
  have hdrain := f.ended.dequeues_drain
  have hopen : f.ended.bridge.isSome := by rwa [hended.isSome_bridge]
  have hhub := f.hub_stop
  have hresult := f.stop_fst
  rw [closeBridge_of_isSome hopen] at hhub hresult
  refine ⟨ending, f.ended.drain.1, (emptied f.ended).resident, ⟨he, ?_, ?_, ?_, ?_⟩, hresult⟩
  · -- what waits when the reader has ended is the first part of what is then taken
    have harrivals := hdrain.spec.2.2
    rw [Hub.resident_drain, List.append_nil] at harrivals
    rw [hended.spec.2.2, ← harrivals]
    exact List.prefix_append _ _
  · rw [(hended.trans hdrain).spec.2.2, Hub.resident_drain, List.append_nil]
    rfl
  · have hspec := ((hended.trans hdrain).trans hq).spec
    rw [hhub, Hub.arrivals_closeBridge hspec.1, hspec.2.2]
    simp
  · have hlate := Hub.adds_closeBridge (emptied f.ended)
    rw [hl, hlevel] at hlate
    rw [hlevel] at hempty
    rw [hhub, disposal]
    simpa using (hadds.trans hempty).trans hlate

/-- Without a bridge a stop releases nothing. -/
lemma stop_of_closed {f : Feed ρ} (hb : f.hub.bridge = none) :
    f.stop.1 = .ok () ∧ ∃ ending, f.Ends ending ∧ Hub.Adds ending f.hub f.stop.2.hub := by
  obtain ⟨⟨ending, he, hadds⟩, -⟩ := f.adds_ended
  have hhub := f.hub_stop
  have hresult := f.stop_fst
  have hclosed : f.ended.bridge = none :=
    (f.reaches_ended (s := 0) (g := 0)).bridge_eq_none hb
  rw [closeBridge_of_none hclosed] at hhub hresult
  refine ⟨hresult, ending, he, ?_⟩
  rwa [hhub]

end

/-- A flag that is clear stays clear while faults are discarded. -/
lemma heeds_discardFaults (h : Hub) : Hub.Heeds [] h (discardFaults h) := by
  have ht := Hub.heeds_takeFault h
  fun_induction discardFaults h with
  | case1 h k hk =>
    rw [hk] at ht
    exact ht
  | case2 h fault k hk l hs ih =>
    rw [hk] at ht
    exact (ht.trans_nil (Hub.heeds_record _ k)).trans_nil (ih (Hub.heeds_takeFault l))
  | case3 h fault k hk l hs =>
    rw [hk] at ht
    exact ht.trans_nil (Hub.heeds_record _ k)

/-- Joining a reader heeds signals if readers do not set the flag. -/
lemma heeds_joinReader [Reader ρ] (hr : RestrainedReaders ρ) (remaining : Span) (r : ρ) (h : Hub) :
    Hub.Heeds [] h (joinReader remaining r h).2.2 := by
  fun_induction joinReader remaining r h with
  | case1 remaining r h k slice status moves r' hj l hend =>
    have hm := hr r slice k.slotFree
    rw [hj] at hm
    have hk := (heeds_discardFaults h).trans_nil (Hub.heeds_record (.joined slice status) k)
    exact hk.trans_nil (Hub.heeds_moves hm _)
  | case2 remaining r h k slice status moves r' hj l hend ih =>
    have hm := hr r slice k.slotFree
    rw [hj] at hm
    have hk := (heeds_discardFaults h).trans_nil (Hub.heeds_record (.joined slice status) k)
    exact (hk.trans_nil (Hub.heeds_moves hm _)).trans_nil ih

/-- Ending a reader heeds signals if readers do not set the flag. -/
lemma heeds_endReader [Reader ρ] (hr : RestrainedReaders ρ) (timeout : Span) (r : ρ) (h : Hub) :
    Hub.Heeds [] h (endReader timeout r h) := by
  have hj := (Hub.heeds_record .shutDown h).trans_nil
    (heeds_joinReader hr timeout (Reader.shutDown r) _)
  unfold endReader
  split <;> rename_i hk <;> rw [hk] at hj
  · exact hj
  · exact hj.trans_nil (Hub.heeds_record _ _)

/-- Releasing events heeds signals. -/
lemma heeds_releaseAll (events : List Event) (h : Hub) :
    Hub.Heeds [] h (releaseAll events h).2 := by
  induction events generalizing h with
  | nil => exact .refl
  | cons e rest ih =>
    rw [releaseAll_cons_snd]
    exact ((Hub.heeds_yield h).trans_nil (Hub.heeds_releaseOrLog _ _ _)).trans_nil (ih _)

/-- Releasing what waits and closing the bridge heeds signals. -/
lemma heeds_closeBridge (h : Hub) : Hub.Heeds [] h (closeBridge h).2 := by
  cases hb : h.bridge with
  | none =>
    rw [closeBridge_of_none hb]
    exact .refl
  | some b =>
    have hd := (Hub.heeds_drain h).trans_nil (Hub.heeds_record (.logged (drainLine h.drain.1)) _)
    have hr := hd.trans_nil (heeds_releaseAll h.drain.1 _)
    rw [closeBridge_of_isSome (by rw [hb]; rfl)]
    exact (hr.trans_nil (Hub.heeds_yield _)).trans_nil (Hub.heeds_closeBridge _)

/-- After a stop the running flag is clear, unless somebody sets it while the stop lasts. -/
lemma running_stop [Reader ρ] (hr : RestrainedReaders ρ) {f : Feed ρ}
    (hs : Restrained f.hub.schedule) : f.stop.2.hub.running = false := by
  have hended : Hub.Heeds [] (f.hub.setRunning false) f.ended := by
    unfold ended
    cases f.reader with
    | none => exact .refl
    | some r => exact heeds_endReader hr _ r _
  rw [hub_stop]
  exact (hended.trans_nil (heeds_closeBridge f.ended)).stays_clear hs rfl

/-- A feed of which nothing is left. -/
structure Gone (f : Feed ρ) : Prop where
  state : f.state = .stopped
  reader : f.reader = none
  assembler : f.assembler = none
  bridge : f.hub.bridge = none

/-- Nothing is left of a feed that was stopped. -/
lemma gone_stop [Reader ρ] (f : Feed ρ) : f.stop.2.Gone := by
  obtain ⟨hs, hr, ha, hb⟩ := f.parts_stop
  exact ⟨hs, hr, ha, hb⟩

/-- Of a feed of which nothing is left a stop only clears the running flag. -/
lemma Gone.stop_eq_signal [Reader ρ] {f : Feed ρ} (hf : f.Gone) : f.stop = (.ok (), f.signal) := by
  obtain ⟨context, state, assembler, reader, hub⟩ := f
  obtain ⟨rfl, rfl, rfl, hb⟩ := hf
  have hc : (hub.setRunning false).bridge = none := hb
  rw [stop_eq, ended, closeBridge_of_none hc]
  rfl

end Feed

namespace World

variable {ρ : Type} [Reader ρ] {w : World ρ} {f g : Feed ρ} {c : Call}

/-- Whatever is called, nothing comes back of a feed of which nothing is left. -/
lemma gone_step (hf : f.Gone) (hw : w.place = .feed f) (hg : (w.step c).place = .feed g) :
    g.Gone := by
  obtain ⟨hs, hr, ha, hb⟩ := hf
  have hnew : f.state ≠ .new := by simp [hs]
  have hpolling : f.polling? = none := by simp [Feed.polling?, hs]
  obtain ⟨place, converted⟩ := w
  obtain rfl : place = .feed f := hw
  cases c with
  | start properties =>
    cases hg
    rw [Feed.start_of_ne_new properties hnew]
    exact ⟨hs, hr, ha, hb⟩
  | poll =>
    cases hg
    rw [Feed.poll, hpolling]
    exact ⟨hs, hr, ha, hb⟩
  | convert e =>
    cases hg
    obtain ⟨-, hc⟩ | ⟨a, hsome, -⟩ := f.convert_cases e
    · rw [hc]
      exact ⟨hs, hr, ha,
        (Hub.reaches_drop (s := 0) (g := 0) e.message).serves.bridge_eq_none hb⟩
    · rw [ha] at hsome
      cases hsome
  | stop =>
    cases hg
    exact f.gone_stop
  | signal =>
    cases hg
    exact ⟨hs, hr, ha, hb⟩
  | others ms =>
    cases hg
    exact ⟨hs, hr, ha, (Hub.reaches_moves (s := 0) (g := 0) ms).serves.bridge_eq_none hb⟩
  | letGo => cases hg

/-- Nothing comes back, whatever is called. -/
lemma gone_run {calls : List Call} (hf : f.Gone) (hw : w.place = .feed f)
    (hg : (w.run calls).place = .feed g) : g.Gone := by
  induction calls generalizing w f with
  | nil =>
    cases hw.symm.trans hg
    exact hf
  | cons c rest ih =>
    obtain ⟨k, hk⟩ := feed_of_run (w := w.step c) hg
    exact ih (gone_step hf hw hk) hk hg

end World

namespace Feed

variable {ρ : Type} [Reader ρ]

/-- What a stop comes to, whatever state the feed is in, whatever waits, and whoever acts meanwhile.
If the bridge is open, all that waits in it once the reader has ended, or has had the time for that,
is released in the order in which it arrived, with a warning for each buffer that cannot be
released, and the stop comes to the error of the first of these if there is one. Without a bridge
nothing is released. Nothing is acknowledged. In each case nothing of the feed is left, and whatever
is called then, every later stop only clears the running flag again. -/
theorem stop_releases_everything (f : Feed ρ) :
    (f.hub.bridge.isSome → ∃ ending drained late, f.Disposes ending drained late ∧
      released (disposal f.hub.redaction ending drained late) = buffered drained ++ buffered late ∧
      warnings (disposal f.hub.redaction ending drained late) =
        drained.filterMap (Event.warning? (.leftoverFailure f.hub.redaction)) ++
          late.filterMap (Event.warning? (.droppedFailure f.hub.redaction)) ∧
      (f.stop.1 = .ok () ↔ ∀ e ∈ drained, e.message.releaseError? = none) ∧
      ∀ cause, f.stop.1 = .error cause ↔ ∃ before e after error,
        drained = before ++ e :: after ∧ (∀ x ∈ before, x.message.releaseError? = none) ∧
        e.message.releaseError? = some error ∧ cause = .release error) ∧
    (f.hub.bridge = none →
      f.stop.1 = .ok () ∧ ∃ ending, f.Ends ending ∧ Hub.Adds ending f.hub f.stop.2.hub) ∧
    acknowledged (f.hub.since f.stop.2.hub) = [] ∧
    f.stop.2.Gone ∧
    (RestrainedReaders ρ → Restrained f.hub.schedule → f.stop.2.hub.running = false) ∧
    ∀ (w : World ρ) calls g, w.place = .feed f.stop.2 → (w.run calls).place = .feed g →
      g.stop = (.ok (), g.signal) ∧ g.hub.since g.signal.hub = [] := by
  refine ⟨?_, stop_of_closed, ?_, f.gone_stop, ?_, ?_⟩
  · intro hb
    obtain ⟨ending, drained, late, hd, hresult⟩ := disposes hb
    obtain ⟨hreleased, hwarned⟩ :=
      views_disposal f.hub.redaction drained late hd.ends.endsReader
    refine ⟨ending, drained, late, hd, hreleased, hwarned, ?_, ?_⟩
    · rw [hresult, ← List.findSome?_eq_none_iff]
      cases drained.findSome? (·.message.releaseError?) <;> simp
    · intro cause
      rw [hresult]
      refine ⟨?_, ?_⟩
      · intro hc
        cases hfirst : drained.findSome? (·.message.releaseError?) with
        | none =>
          rw [hfirst] at hc
          cases hc
        | some error =>
          rw [hfirst] at hc
          cases hc
          obtain ⟨before, e, after, rfl, he, hok⟩ := List.findSome?_eq_some_iff.1 hfirst
          exact ⟨before, e, after, error, rfl, hok, he, rfl⟩
      · rintro ⟨before, e, after, error, rfl, hok, he, rfl⟩
        rw [List.findSome?_eq_some_iff.2 ⟨before, e, after, rfl, he, hok⟩]
        rfl
  · obtain ⟨own, ht, ha⟩ := f.adds_stop
    exact (acknowledged_since ha).trans ht.acknowledged_eq
  · exact fun hr hs => running_stop hr hs
  · intro w calls g hw hg
    have hgone := World.gone_run f.gone_stop hw hg
    exact ⟨hgone.stop_eq_signal, List.drop_length⟩

open Doubles

/-- A feed whose reader handed over three events, two of which cannot be released, and then could
not be started. -/
def leaky : Feed StandIn :=
  ((Feed.new ⟨fun _ => [],
    fun _ => ⟨[.enqueue (mutation 0 1), .enqueue (failingMutation 0 2),
      .enqueue (failingMutation 0 3)], .error "cluster unreachable"⟩,
    .builtin, defaultJoinTimeout⟩ (Hub.idle .none)).start (properties [])).2

/-- A stop of the leaky feed releases all three, and comes to the failure of the second. -/
theorem stop_releases_everything_leaky :
    ∃ ending drained late, leaky.Disposes ending drained late ∧
      drained.map Event.message =
        [(mutation 0 1).message, (failingMutation 0 2).message, (failingMutation 0 3).message] ∧
      leaky.stop.1 = .error (.release ⟨"simulated release failure for seqno 2"⟩) ∧
      leaky.stop.2.Gone ∧ leaky.stop.2.hub.running = false ∧
      leaky.stop.2.stop = (.ok (), leaky.stop.2.signal) := by
  have hb : leaky.hub.bridge.isSome := by decide +kernel
  have hs : Restrained leaky.hub.schedule := by
    have hn : leaky.hub.schedule = [] := by decide +kernel
    rw [hn]
    exact nofun
  have hm : (leaky.hub.arrivals leaky.ended.drain.2).map Event.message =
      [(mutation 0 1).message, (failingMutation 0 2).message, (failingMutation 0 3).message] := by
    decide +kernel
  obtain ⟨hopen, -, -, hgone, hrunning, hlater⟩ := leaky.stop_releases_everything
  obtain ⟨ending, drained, late, hd, -, -, -, herror⟩ := hopen hb
  rw [hd.taken] at hm
  refine ⟨ending, drained, late, hd, hm, ?_, hgone, hrunning restrainedReaders_standIn hs, ?_⟩
  · obtain ⟨e, rest, rfl, he, hrest⟩ := List.map_eq_cons_iff.1 hm
    obtain ⟨e', rest', rfl, he', -⟩ := List.map_eq_cons_iff.1 hrest
    refine (herror _).2 ⟨[e], e', rest', _, rfl, ?_, ?_, rfl⟩
    · intro x hx
      obtain rfl := List.mem_singleton.1 hx
      rw [he]
      rfl
    · rw [he']
      decide +kernel
  · exact (hlater ⟨.feed leaky.stop.2, []⟩ [] leaky.stop.2 rfl rfl).1

end Feed

end ChangeFeed
