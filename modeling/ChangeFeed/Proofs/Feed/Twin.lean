import ChangeFeed.Proofs.Batch.Twin
import ChangeFeed.Proofs.Feed.Start
import ChangeFeed.Proofs.Feed.Stop

/-!
# Feeds that differ in user data only

Two feeds are twins if they work alike on hubs that are twins: they are in the same state, have the
same assembler with a built-in filter and a built-in source handler, and readers that act alike.
Whatever is done to both of them leaves them twins. Starting them does so too, if the configured
level keeps user data between tags.
-/

namespace ChangeFeed

variable {ρ : Type} {R : Bytes → Bytes → Prop} {T : ρ → ρ → Prop}

/-- Readers that are related make moves that are twins when they are waited for, and end alike. -/
structure ActAlike (R : Bytes → Bytes → Prop) [Reader ρ] (T : ρ → ρ → Prop) : Prop where
  shutDown : ∀ {r s}, T r s → T (Reader.shutDown r) (Reader.shutDown s)
  join : ∀ {r s}, T r s → ∀ span slotFree, ∃ status ms ns r' s',
    Reader.join r span slotFree = (status, ms, r') ∧
      Reader.join s span slotFree = (status, ns, s') ∧ List.Forall₂ (Move.Twin R) ms ns ∧ T r' s'

/-- Readers that are related are started with moves that are twins, or neither is started. -/
inductive Launch.Twin (R : Bytes → Bytes → Prop) (T : ρ → ρ → Prop) :
    Launch ρ → Launch ρ → Prop where
  | failed {ms ns cause} :
    List.Forall₂ (Move.Twin R) ms ns →
    Twin R T ⟨ms, .error cause⟩ ⟨ns, .error cause⟩
  | started {ms ns r s} :
    List.Forall₂ (Move.Twin R) ms ns →
    T r s →
    Twin R T ⟨ms, .ok r⟩ ⟨ns, .ok s⟩

/-- The host provides the same but for readers, and the built-in filters and source handlers. -/
structure FeedContext.Twin (R : Bytes → Bytes → Prop) (T : ρ → ρ → Prop)
    (c d : FeedContext ρ) : Prop where
  storage : c.storage = d.storage
  registry : c.registry = d.registry
  builtin : c.registry = .builtin
  joinTimeout : c.joinTimeout = d.joinTimeout
  factory : ∀ context, (c.factory context).Twin R T (d.factory context)

/-- The feeds work alike on hubs that are twins. -/
structure Feed.Twin (R : Bytes → Bytes → Prop) (T : ρ → ρ → Prop) (f g : Feed ρ) : Prop where
  context : f.context.Twin R T g.context
  state : f.state = g.state
  assembler : f.assembler = g.assembler
  builtin : ∀ a, f.assembler = some a → a.pipeline.Builtin
  reader : Option.Rel T f.reader g.reader
  hub : f.hub.Twin R g.hub

/-- If the properties are a configuration, its level keeps user data between tags. -/
def Tags (properties : Properties) : Prop :=
  ∀ config, Accepted properties config → config.logRedaction ≠ .none

section

variable {properties : Properties} {config : FeedConfig} {filter : Option Filter}
  {handler : Handler} {positions : Positions}

/-- Only built-in filters are registered. -/
lemma FilterOf.builtin (hf : FilterOf .builtin config filter) :
    filter = none ∨ filter = some .allPass ∨ filter = some .ignoreDeletes := by
  cases hf with
  | unnamed _ => exact .inl rfl
  | @named name filter _ hfind =>
    simp only [Registry.builtin, Registry.registerFilter, Registry.registerHandler, Registry.empty,
      Dictionary.find?_insert, Dictionary.find?] at hfind
    grind

/-- Only built-in source handlers are registered. -/
lemma handler_builtin {name : String}
    (hh : Dictionary.find? name Registry.builtin.handlers = some handler) :
    handler = .rawJson ∨ handler = .rawJsonWithMetadata := by
  simp only [Registry.builtin, Registry.registerFilter, Registry.registerHandler, Registry.empty,
    Dictionary.find?_insert, Dictionary.find?] at hh
  grind

/-- A start with the built-in registry works with built-in collaborators. -/
lemma Prepared.builtin {c : FeedContext ρ}
    (hp : Prepared c properties config filter handler positions) (hc : c.registry = .builtin) :
    ∀ a, some (Feed.assemblerOf config filter handler) = some a → a.pipeline.Builtin := by
  have hr := hp.resolved
  rw [hc] at hr
  intro a ha
  obtain rfl := Option.some.inj ha
  exact ⟨hr.filter.builtin, handler_builtin hr.handler⟩

/-- What a start is prepared for with one host it is prepared for with the other. -/
lemma Prepared.twin {c d : FeedContext ρ}
    (hp : Prepared c properties config filter handler positions) (hc : c.Twin R T d) :
    Prepared d properties config filter handler positions :=
  ⟨hc.registry ▸ hp.resolved, hc.storage ▸ hp.positions⟩

end

namespace Feed

/-- Where no fault waits none is discarded. -/
lemma discardFaults_of_none {h k : Hub} (ht : h.takeFault = (none, k)) : discardFaults h = k := by
  rw [discardFaults, ht]

/-- A fault that waits is discarded, and so are those that come in its place. -/
lemma discardFaults_of_some {h k : Hub} {fault : String} (ht : h.takeFault = (some fault, k)) :
    discardFaults h =
      if (k.log (discardLine fault)).schedule.length < h.schedule.length then
        discardFaults (k.log (discardLine fault))
      else k.log (discardLine fault) := by
  rw [discardFaults, ht]
  rfl

/-- As many faults are taken from both. -/
lemma twin_discardFaults (hR : Alike R) {h k : Hub} (hh : h.Twin R k) :
    (discardFaults h).Twin R (discardFaults k) := by
  revert k
  fun_induction discardFaults h
  case case1 h g ht =>
    intro k hh
    obtain ⟨fault, l, m, hl, hm, hlm⟩ := hh.takeFault hR
    obtain ⟨rfl, rfl⟩ := Prod.mk.inj (ht.symm.trans hl)
    rw [discardFaults_of_none hm]
    exact hlm
  case case2 h fault g ht g' hs ih =>
    intro k hh
    obtain ⟨fault', l, m, hl, hm, hlm⟩ := hh.takeFault hR
    obtain ⟨rfl, rfl⟩ := Prod.mk.inj (ht.symm.trans hl)
    have hlog : g'.Twin R (m.log (discardLine fault)) := hlm.log_same _
    rw [discardFaults_of_some hm, ← hlog.schedule.length_eq, ← hh.schedule.length_eq, if_pos hs]
    exact ih hlog
  case case3 h fault g ht g' hs =>
    intro k hh
    obtain ⟨fault', l, m, hl, hm, hlm⟩ := hh.takeFault hR
    obtain ⟨rfl, rfl⟩ := Prod.mk.inj (ht.symm.trans hl)
    have hlog : g'.Twin R (m.log (discardLine fault)) := hlm.log_same _
    rw [discardFaults_of_some hm, ← hlog.schedule.length_eq, ← hh.schedule.length_eq, if_neg hs]
    exact hlog

section

variable [Reader ρ]

/-- What waiting for a reader comes to, by its first slice. -/
lemma joinReader_of_join {remaining : Span} {r r' : ρ} {h : Hub} {status : JoinStatus}
    {ms : List Move}
    (hj : Reader.join r (remaining.min joinSlice) (discardFaults h).slotFree = (status, ms, r')) :
    joinReader remaining r h =
      let l := Hub.moves ms ((discardFaults h).record (.joined (remaining.min joinSlice) status))
      if status = .finished ∨ remaining.isZero then (status, r', l)
      else joinReader (remaining.minus (remaining.min joinSlice)) r' l := by
  rw [joinReader]
  simp only [hj]
  rfl

variable (hR : Alike R) (hT : ActAlike R T)

include hR hT

/-- The slices in which one reader is waited for are those in which the other is. -/
lemma twin_joinReader (remaining : Span) {r s : ρ} (hr : T r s) {h k : Hub} (hh : h.Twin R k) :
    ∃ status r' s' h' k', joinReader remaining r h = (status, r', h') ∧
      joinReader remaining s k = (status, s', k') ∧ h'.Twin R k' := by
  revert s k
  fun_induction joinReader remaining r h
  case case1 remaining r h g slice status moves r' hj l hend =>
    intro s hr k hh
    have hd : g.Twin R (discardFaults k) := twin_discardFaults hR hh
    obtain ⟨status', ms, ns, r'', s', hp, hq, hm, hs⟩ := hT.join hr slice g.slotFree
    obtain ⟨rfl, rfl, rfl⟩ : status = status' ∧ moves = ms ∧ r' = r'' := by
      simpa using hj.symm.trans hp
    rw [hd.slotFree] at hq
    refine ⟨_, _, s', _, _, rfl, ?_, (hd.record rfl).moves hR hm⟩
    rw [joinReader_of_join hq]
    exact if_pos hend
  case case2 remaining r h g slice status moves r' hj l hend ih =>
    intro s hr k hh
    have hd : g.Twin R (discardFaults k) := twin_discardFaults hR hh
    obtain ⟨status', ms, ns, r'', s', hp, hq, hm, hs⟩ := hT.join hr slice g.slotFree
    obtain ⟨rfl, rfl, rfl⟩ : status = status' ∧ moves = ms ∧ r' = r'' := by
      simpa using hj.symm.trans hp
    rw [hd.slotFree] at hq
    obtain ⟨status', r1, s1, h1, k1, hh1, hk1, htwin⟩ := ih hs ((hd.record rfl).moves hR hm)
    refine ⟨status', r1, s1, h1, k1, hh1, ?_, htwin⟩
    rw [joinReader_of_join hq]
    exact (if_neg hend).trans hk1

/-- Ending readers that are related leaves twins. -/
lemma twin_endReader (timeout : Span) {r s : ρ} (hr : T r s) {h k : Hub} (hh : h.Twin R k) :
    (endReader timeout r h).Twin R (endReader timeout s k) := by
  obtain ⟨status, r', s', h', k', hp, hq, hh'⟩ :=
    twin_joinReader hR hT timeout (hT.shutDown hr) (hh.record (x := .shutDown) rfl)
  rw [endReader, endReader, hp, hq]
  cases status with
  | finished => exact hh'
  | stillRunning => exact hh'.log_same _

end

/-- Releasing events that are twins leaves twins. -/
lemma twin_releaseAll (hR : Alike R) {events events' : List Event}
    (he : List.Forall₂ (Event.Twin R) events events') {h k : Hub} (hh : h.Twin R k) :
    (releaseAll events h).2.Twin R (releaseAll events' k).2 := by
  induction he generalizing h k with
  | nil => exact hh
  | cons he _ ih =>
    rw [releaseAll_cons_snd, releaseAll_cons_snd]
    exact ih ((hh.yield hR).releaseOrLog (tagging_releaseFailure hR _) he.message)

/-- Releasing what waits and closing the bridge leaves twins. -/
lemma twin_closeBridge (hR : Alike R) {h k : Hub} (hh : h.Twin R k) :
    (closeBridge h).2.Twin R (closeBridge k).2 := by
  obtain ⟨hb, hc⟩ | ⟨b, c, hb, hc, -⟩ := hh.bridge_cases
  · rw [closeBridge_of_none hb, closeBridge_of_none hc]
    exact hh
  · obtain ⟨as, bs, h', k', hp, hq, hev, hd⟩ := hh.drain hR
    have hlog : (h'.log (drainLine as)).Twin R (k'.log (drainLine bs)) := by
      rw [drainLine, drainLine, hev.length_eq]
      exact hd.log_same _
    rw [closeBridge_of_isSome (by rw [hb]; rfl), closeBridge_of_isSome (by rw [hc]; rfl), emptied,
      emptied, hp, hq]
    exact ((twin_releaseAll hR hev hlog).yield hR).closeBridge hR

variable {f g f' : Feed ρ} {properties : Properties} {result : Except FeedError Unit}

/-- The hubs at which a start may end, and that at which the reader is asked for, are twins. -/
lemma twin_opening (hR : Alike R) (hf : f.Twin R T g) {config : FeedConfig}
    (hl : config.logRedaction ≠ .none) :
    (f.configured config).Twin R (g.configured config) ∧
      (f.consulting config).Twin R (g.consulting config) ∧
      (f.opening config).Twin R (g.opening config) := by
  have hh := hf.hub.yield hR
  have hc : (f.configured config).Twin R (g.configured config) :=
    ⟨hh.bridge, hh.running, rfl, hl, hh.schedule, hh.handedBack, hh.lines⟩
  have ha : (f.consulting config).Twin R (g.consulting config) :=
    ((hc.yield hR).record (x := .consulted config.asked) rfl).log_same rawOffsetsLine
  have hr : (f.raised config).Twin R (g.raised config) :=
    ((ha.log_same positionsLine).yield hR).setRunning true
  exact ⟨hc, ha, (hr.yield hR).withBridge (.some ⟨.nil, rfl⟩)⟩

/-- A start of a twin ends at the same stage, if user data is logged with tags afterwards. -/
lemma Staged.twin (hR : Alike R) (ht : Tags properties) (hs : f.Staged properties result f')
    (hf : f.Twin R T g) : ∃ g', g.Staged properties result g' ∧ f'.Twin R T g' := by
  have hc := hf.context
  cases hs with
  | unaccepted hu =>
    exact ⟨_, .unaccepted hu, hc, rfl, hf.assembler, hf.builtin, hf.reader, hf.hub⟩
  | @unresolved config _ ha hu =>
    obtain ⟨hh, -, -⟩ := twin_opening hR hf (ht config ha)
    exact ⟨_, .unresolved ha (hc.registry ▸ hu), hc, rfl, hf.assembler, hf.builtin, hf.reader, hh⟩
  | @undecoded config filter handler e hr he =>
    obtain ⟨-, hh, -⟩ := twin_opening hR hf (ht config hr.accepted)
    exact ⟨_, .undecoded (hc.registry ▸ hr) (hc.storage ▸ he), hc, rfl, hf.assembler, hf.builtin,
      hf.reader, hh⟩
  | @unlaunched config filter handler positions ms cause hp hl =>
    obtain ⟨-, -, hh⟩ := twin_opening hR hf (ht config hp.resolved.accepted)
    have hlaunch := hc.factory (.of config properties positions)
    rw [hl] at hlaunch
    cases hk : g.context.factory (.of config properties positions) with
    | mk ns outcome =>
      rw [hk] at hlaunch
      cases hlaunch with
      | failed hm =>
        exact ⟨_, .unlaunched (hp.twin hc) hk, hc, rfl, rfl, hp.builtin hc.builtin, hf.reader,
          (hh.moves hR hm).record rfl⟩
  | @launched config filter handler positions ms reader hp hl =>
    obtain ⟨-, -, hh⟩ := twin_opening hR hf (ht config hp.resolved.accepted)
    have hlaunch := hc.factory (.of config properties positions)
    rw [hl] at hlaunch
    cases hk : g.context.factory (.of config properties positions) with
    | mk ns outcome =>
      rw [hk] at hlaunch
      cases hlaunch with
      | started hm hr =>
        have hg := (hh.moves hR hm).record
          (x := .launched (.of config properties positions) true)
          (y := .launched (.of config properties positions) true) rfl
        exact ⟨_, .launched (hp.twin hc) hk, hc, rfl, rfl, hp.builtin hc.builtin, .some hr,
          hg.log_same _⟩

namespace Twin

/-- Twins go on with hubs that are twins. -/
lemma withHub (hf : f.Twin R T g) {h k : Hub} (hh : h.Twin R k) :
    Feed.Twin R T { f with hub := h } { g with hub := k } :=
  ⟨hf.context, hf.state, hf.assembler, hf.builtin, hf.reader, hh⟩

/-- A start that is refused changes nothing; another one ends at the same stage. -/
lemma start (hR : Alike R) (ht : Tags properties) (hf : f.Twin R T g) :
    (f.start properties).2.Twin R T (g.start properties).2 := by
  by_cases hn : f.state = .new
  · have hn' : g.state = .new := hf.state ▸ hn
    obtain ⟨result, f', hs⟩ := f.exists_staged properties
    obtain ⟨g', hs', hf'⟩ := hs.twin hR ht hf
    rw [hs.start_eq hn, hs'.start_eq hn']
    exact hf'
  · have hn' : g.state ≠ .new := hf.state ▸ hn
    rw [Feed.start, Feed.start, if_pos hn, if_pos hn']
    exact hf

/-- A poll leaves twins. -/
lemma poll (hR : Alike R) (hf : f.Twin R T g) : f.poll.2.Twin R T g.poll.2 := by
  have hpolling : f.polling? = g.polling? := by
    rw [polling?, polling?, hf.state, hf.assembler, hf.hub.isSome_bridge]
  unfold Feed.poll
  rw [hpolling]
  cases hp : g.polling? with
  | none => exact hf
  | some a =>
    have ha : f.assembler = some a := by
      rw [← hpolling, polling?] at hp
      split at hp
      · exact hp
      · cases hp
    exact hf.withHub (Assembler.twin_poll hR (hf.builtin a ha) hf.hub)

/-- A conversion of events that are twins leaves twins. -/
lemma convert (hR : Alike R) {x y : Event} (he : x.Twin R y) (hf : f.Twin R T g) :
    (f.convert x).2.Twin R T (g.convert y).2 := by
  unfold Feed.convert
  rw [← hf.assembler]
  cases ha : f.assembler with
  | none => exact hf.withHub (hf.hub.drop hR he.message)
  | some a =>
    obtain ⟨r, r', h, k, hp, hq, -, hh⟩ := Assembler.twin_process hR (hf.builtin a ha) he hf.hub
    simp only [hp, hq]
    rw [← ha]
    exact ⟨hf.context, hf.state, rfl, hf.builtin, hf.reader, hh⟩

/-- A stop leaves twins. -/
lemma stop [Reader ρ] (hR : Alike R) (hT : ActAlike R T) (hf : f.Twin R T g) :
    f.stop.2.Twin R T g.stop.2 := by
  have hended : f.ended.Twin R g.ended := by
    have hs := hf.hub.setRunning false
    rw [ended, ended, hf.context.joinTimeout]
    obtain ⟨hx, hy⟩ | ⟨r, s, hx, hy, hrs⟩ := optionRel_cases hf.reader
    · rw [hx, hy]
      exact hs
    · rw [hx, hy]
      exact twin_endReader hR hT _ hrs hs
  rw [stop_eq, stop_eq]
  refine ⟨hf.context, rfl, rfl, ?_, .none, twin_closeBridge hR hended⟩
  intro a ha
  cases ha

end Twin

end Feed

end ChangeFeed
