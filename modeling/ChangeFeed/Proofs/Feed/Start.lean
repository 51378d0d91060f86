import ChangeFeed.Proofs.Feed.Signal

/-!
# What a start does and leaves alone

Of each thing that a start does, the stage at which it ends tells whether it is done: the redaction
level is changed once the configuration is accepted, the storage is asked once the filter and the
source handler are found, and the running flag is set and the reader asked for once the saved
positions are decoded. What is not done is left as it is, or to other threads.
-/

namespace ChangeFeed

/-- The source partitions that the storage was asked for. -/
def Entry.consulted? : Entry → Option (List JsonMap)
  | consulted partitions => some partitions
  | _ => none

/-- What the storage was asked for, call by call. -/
def consultations (journal : List Entry) : List (List JsonMap) :=
  journal.filterMap Entry.consulted?

/-- No other thread asks the storage. -/
lemma Entry.ByHolder.consulted? {held : List Event} {x : Entry} (hx : x.ByHolder held) :
    x.consulted? = none := by
  cases x <;> first | rfl | cases hx

/-- What the storage was asked for is among what a thread adds itself. -/
lemma consultations_since {h k : Hub} {own : List Entry} (ha : Hub.Adds own h k) :
    consultations (h.since k) = consultations own :=
  ha.filterMap_since fun _ _ hx => hx.consulted?

namespace Feed

variable {ρ : Type} {f g : Feed ρ} {properties : Properties} {config : FeedConfig}
  {filter : Option Filter} {handler : Handler} {positions : Positions}
  {result : Except FeedError Unit}

/-- Until the configuration is accepted the flag and the bridge are left to others. -/
lemma left_configured (f : Feed ρ) (config : FeedConfig) :
    f.hub.LeftToOthers (f.configured config) :=
  (Hub.LeftToOthers.yield f.hub).trans (.same rfl rfl rfl)

/-- Asking for the saved positions leaves the flag and the bridge to others. -/
lemma left_consulting (f : Feed ρ) (config : FeedConfig) :
    f.hub.LeftToOthers (f.consulting config) :=
  ((f.left_configured config).trans (.yield _)).trans (.same rfl rfl rfl)

/-- Until the flag is set it is left to others, and so is the bridge. -/
lemma left_ready (f : Feed ρ) (config : FeedConfig) : f.hub.LeftToOthers (f.ready config) :=
  ((f.left_consulting config).trans (.note _ _)).trans (.yield _)

/-- The redaction level is that of the configuration when the reader is asked for. -/
lemma redaction_opening (f : Feed ρ) (config : FeedConfig) (ms : List Move) :
    (Hub.moves ms (f.opening config)).redaction = config.logRedaction := by
  have hc : (f.consulting config).redaction = config.logRedaction := Hub.redaction_yield _
  have hr : (f.raised config).redaction = config.logRedaction := (Hub.redaction_yield _).trans hc
  rw [Hub.redaction_moves]
  exact (Hub.redaction_yield _).trans hr

/-- The redaction level is that of the configuration once that is accepted, and else it stays. -/
lemma Staged.redaction (hs : f.Staged properties result g) :
    (∀ config, Accepted properties config → g.hub.redaction = config.logRedaction) ∧
      ((∀ config, ¬ Accepted properties config) → g.hub.redaction = f.hub.redaction) := by
  cases hs with
  | unaccepted hu =>
    refine ⟨?_, fun _ => rfl⟩
    intro config ha
    exact absurd ha hu.not_accepted
  | unresolved ha _ =>
    refine ⟨?_, fun hnone => absurd ha (hnone _)⟩
    intro config hb
    rw [ha.unique hb]
    rfl
  | undecoded hr _ =>
    refine ⟨?_, fun hnone => absurd hr.accepted (hnone _)⟩
    intro config hb
    rw [hr.accepted.unique hb]
    exact Hub.redaction_yield _
  | @unlaunched config _ _ _ ms _ hp _ | @launched config _ _ _ ms _ hp _ =>
    refine ⟨?_, fun hnone => absurd hp.resolved.accepted (hnone _)⟩
    intro other hb
    rw [hp.resolved.accepted.unique hb]
    exact f.redaction_opening config ms

/-- The storage is asked once, for the configured partitions, when the look-up is done, and else it
is not asked. -/
lemma Staged.consultations (hs : f.Staged properties result g) :
    (∀ config filter handler, Resolved f.context.registry properties config filter handler →
        consultations (f.hub.since g.hub) = [config.asked]) ∧
      ((∀ config filter handler, ¬ Resolved f.context.registry properties config filter handler) →
        consultations (f.hub.since g.hub) = []) := by
  cases hs with
  | unaccepted hu =>
    refine ⟨?_, fun _ => consultations_since .refl⟩
    intro config filter handler hr
    exact absurd hr.accepted hu.not_accepted
  | @unresolved config _ ha hu =>
    refine ⟨?_, fun _ => consultations_since (f.adds_configured config)⟩
    intro other filter handler hr
    obtain rfl := ha.unique hr.accepted
    exact absurd hr hu.not_resolved
  | @undecoded config filter handler e hr _ =>
    refine ⟨?_, fun hnone => absurd hr (hnone _ _ _)⟩
    intro other filter' handler' hr'
    obtain ⟨rfl, rfl, rfl⟩ := hr.unique hr'
    exact consultations_since (f.adds_consulting other)
  | @unlaunched config filter handler positions ms cause hp _ =>
    refine ⟨?_, fun hnone => absurd hp.resolved (hnone _ _ _)⟩
    intro other filter' handler' hr
    obtain ⟨rfl, rfl, rfl⟩ := hp.resolved.unique hr
    exact consultations_since ((f.adds_opening other ms).trans (Hub.adds_record _ _))
  | @launched config filter handler positions ms reader hp _ =>
    refine ⟨?_, fun hnone => absurd hp.resolved (hnone _ _ _)⟩
    intro other filter' handler' hr
    obtain ⟨rfl, rfl, rfl⟩ := hp.resolved.unique hr
    exact consultations_since
      (((f.adds_opening other ms).trans (Hub.adds_record _ _)).trans (Hub.adds_log _ _))

/-- The reader is asked for once, when the running flag was set and the bridge of the feed is open
and empty, and does what it does at that bridge: the events that it hands over wait there, and no
others. Until the flag is set, it and the bridge are left to others; and so is the flag from there
on, but for what the reader does. The assembler is there by then. -/
structure Launches (f : Feed ρ) (context : ReaderContext) (a : Assembler) (g : Feed ρ) : Prop where
  calls : readerCalls (f.hub.since g.hub) =
    [.launched context (f.context.factory context).outcome.isOk]
  ready : f.hub.LeftToOthers (f.ready context.config)
  raised : f.raised context.config = (f.ready context.config).setRunning true
  opened : (f.raised context.config).LeftToOthers (f.raised context.config).yield ∧
    f.opening context.config = (f.raised context.config).yield.openBridge ∧
    (f.opening context.config).bridge = some .empty
  bridge : g.hub.bridge =
    (Hub.moves (f.context.factory context).moves (f.opening context.config)).bridge
  resident : g.hub.resident = accepted ((f.opening context.config).since g.hub)
  arrived : f.hub.bridge = none → g.hub.resident = accepted (f.hub.since g.hub)
  running : g.hub.running =
    (Hub.moves (f.context.factory context).moves (f.opening context.config)).running
  assembler : g.assembler = some a

/-- Once the reader was asked for, the rest of a start only notes something. -/
lemma launches_of_notes {context : ReaderContext} {a : Assembler} {own : List Entry}
    (hassembler : g.assembler = some a)
    (hn : (Hub.moves (f.context.factory context).moves (f.opening context.config)).Notes g.hub)
    (ha : Hub.Adds own (Hub.moves (f.context.factory context).moves (f.opening context.config))
      g.hub)
    (hd : (Hub.moves (f.context.factory context).moves (f.opening context.config)).Dequeues []
      g.hub)
    (hc : readerCalls own = [.launched context (f.context.factory context).outcome.isOk]) :
    f.Launches context a g := by
  refine ⟨?_, f.left_ready _, rfl, ⟨.yield _, rfl, rfl⟩, ?_, ?_, ?_, ?_, hassembler⟩
  · rw [readerCalls_since ((f.adds_opening context.config _).trans ha), readerCalls_append, hc]
    rfl
  · exact hn.bridge
  · have hm := Hub.dequeues_moves (f.context.factory context).moves (f.opening context.config)
    have ho := hm.trans hd
    exact ho.spec.2.2.symm
  · intro hb
    have ho := (f.dequeues_opening context.config (f.context.factory context).moves hb).trans hd
    exact ho.spec.2.2.symm
  · exact hn.running

/-- The reader is asked for when the start is prepared for it, and else nothing is opened. -/
lemma Staged.launches (hs : f.Staged properties result g) :
    (∀ config filter handler positions,
        Prepared f.context properties config filter handler positions →
        f.Launches (.of config properties positions) (assemblerOf config filter handler) g) ∧
      ((∀ config filter handler positions,
          ¬ Prepared f.context properties config filter handler positions) →
        readerCalls (f.hub.since g.hub) = [] ∧ f.hub.LeftToOthers g.hub ∧
          g.assembler = f.assembler ∧ g.reader = f.reader) := by
  cases hs with
  | unaccepted hu =>
    refine ⟨?_, fun _ => ⟨readerCalls_since .refl, .refl, rfl, rfl⟩⟩
    intro config filter handler positions hp
    exact absurd hp.resolved.accepted hu.not_accepted
  | @unresolved config _ ha hu =>
    refine ⟨?_, fun _ =>
      ⟨readerCalls_since (f.adds_configured config), f.left_configured config, rfl, rfl⟩⟩
    intro other filter handler positions hp
    obtain rfl := ha.unique hp.resolved.accepted
    exact absurd hp.resolved hu.not_resolved
  | @undecoded config filter handler e hr he =>
    refine ⟨?_, fun _ =>
      ⟨readerCalls_since (f.adds_consulting config), f.left_consulting config, rfl, rfl⟩⟩
    intro other filter' handler' positions hp
    obtain ⟨rfl, rfl, rfl⟩ := hr.unique hp.resolved
    have hd := hp.positions
    rw [he] at hd
    cases hd
  | @unlaunched config filter handler positions ms cause hp hl =>
    refine ⟨?_, fun hnone => absurd hp (hnone _ _ _ _)⟩
    intro other filter' handler' positions' hp'
    obtain ⟨rfl, rfl, rfl, rfl⟩ := hp.unique hp'
    have hms : (f.context.factory (.of other properties positions')).moves = ms := by rw [hl]
    subst hms
    refine launches_of_notes rfl (.record _) (Hub.adds_record _ _) (Hub.dequeues_note rfl _) ?_
    rw [hl]
    rfl
  | @launched config filter handler positions ms reader hp hl =>
    refine ⟨?_, fun hnone => absurd hp (hnone _ _ _ _)⟩
    intro other filter' handler' positions' hp'
    obtain ⟨rfl, rfl, rfl, rfl⟩ := hp.unique hp'
    have hms : (f.context.factory (.of other properties positions')).moves = ms := by rw [hl]
    subst hms
    refine launches_of_notes rfl ((Hub.Notes.record _).trans (.record _))
      ((Hub.adds_record _ _).trans (Hub.adds_log _ _))
      ((Hub.dequeues_note rfl _).trans (Hub.dequeues_note rfl _)) ?_
    rw [hl]
    rfl

/-- A feed that is started goes on running; one whose start fails goes on being started. -/
lemma Staged.state (hs : f.Staged properties result g) :
    g.state = if result.isOk then .running else .starting := by
  cases hs <;> rfl

/-- What a start of a new feed comes to, at whatever stage it ends, and what it does to reach that
stage and not beyond. The stages are those of `Staged`, each of which says that the earlier ones
were passed. The redaction level becomes the configured one exactly if the configuration is
accepted. The storage is asked exactly if, besides, the filter and the source handler are found:
once, for the configured partitions. The reader is asked for, once, exactly if the answer can be
decoded, and is told the configuration, the properties and the decoded positions; only then the
running flag is set, to stay so unless somebody signals from there on, and the bridge is open, and
the assembler works with the codec that the storage was asked with. -/
theorem start_staged (hn : f.state = .new) (properties : Properties) :
    (∀ result g, f.start properties = (result, g) ↔ f.Staged properties result g) ∧
    ∀ result g, f.start properties = (result, g) →
      g.state = (if result.isOk then .running else .starting) ∧
      ((∀ config, Accepted properties config → g.hub.redaction = config.logRedaction) ∧
        ((∀ config, ¬ Accepted properties config) → g.hub.redaction = f.hub.redaction)) ∧
      ((∀ config filter handler, Resolved f.context.registry properties config filter handler →
          consultations (f.hub.since g.hub) =
            [(codec config).sourcePartitions config.partitions]) ∧
        ((∀ config filter handler,
            ¬ Resolved f.context.registry properties config filter handler) →
          consultations (f.hub.since g.hub) = [])) ∧
      ((∀ config filter handler positions,
          Prepared f.context properties config filter handler positions →
          f.Launches ⟨config.name, config, properties, config.partitions, positions⟩
              ⟨⟨filter, handler, config.bucket, config.topic⟩, codec config, config.batchSizeMax⟩
              g ∧
            ((∀ m ∈ (f.context.factory (.of config properties positions)).moves,
                m.isSignal = false) →
              ¬ (f.raised config).Signalled g.hub → g.hub.running = true)) ∧
        ((∀ config filter handler positions,
            ¬ Prepared f.context properties config filter handler positions) →
          readerCalls (f.hub.since g.hub) = [] ∧ f.hub.LeftToOthers g.hub ∧
            g.assembler = f.assembler ∧ g.reader = f.reader)) := by
  refine ⟨fun result g => start_eq_iff_staged hn, ?_⟩
  intro result g heq
  have hs := (start_eq_iff_staged hn).1 heq
  obtain ⟨hlaunches, hnot⟩ := hs.launches
  refine ⟨hs.state, hs.redaction, hs.consultations, ?_, hnot⟩
  intro config filter handler positions hp
  have hl := hlaunches config filter handler positions hp
  refine ⟨hl, ?_⟩
  intro hm hsig
  have ht := f.flagTrace_start properties
  rw [heq] at ht
  have hcall : .launched (.of config properties positions)
      (f.context.factory (.of config properties positions)).outcome.isOk ∈
        readerCalls (f.hub.since g.hub) := by
    rw [hl.calls]
    exact List.mem_cons_self
  exact ht.set_of_not_signal hcall hm hsig

open Doubles

/-- A feed of stand-ins that is to be started with a list that names a partition twice. -/
def unstarted : Feed StandIn :=
  .new ⟨fun _ => [], idleFactory false, .builtin, defaultJoinTimeout⟩ (Hub.idle .none)

/-- The properties of that feed. -/
def repeating : Properties :=
  Doubles.properties [("couchbase.partitions", "1, 0,1"), ("couchbase.log.redaction", "full")]

/-- The configuration that these properties are. -/
def repeated : FeedConfig :=
  ⟨"travel-source", "travel", "travel-topic", none, "raw_json", ⟨2000, Nat.zero_lt_succ _⟩, false,
    .full, [1, 0, 1]⟩

/-- The storage is asked for the partitions as they are listed, and the reader is told of the
properties. -/
theorem start_staged_repeating :
    unstarted.state = .new ∧
      consultations (unstarted.hub.since (unstarted.start repeating).2.hub) =
        [(codec repeated).sourcePartitions [1, 0, 1]] ∧
      readerCalls (unstarted.hub.since (unstarted.start repeating).2.hub) =
        [.launched ⟨"travel-source", repeated, repeating, [1, 0, 1], []⟩ true] ∧
      (unstarted.start repeating).2.hub.redaction = .full ∧
      (unstarted.start repeating).2.hub.running = true := by
  have ha : Accepted repeating repeated := ⟨by decide +kernel, by decide +kernel⟩
  have hr : Resolved unstarted.context.registry repeating repeated none .rawJson :=
    ⟨ha, .unnamed rfl, rfl⟩
  have hp : Prepared unstarted.context repeating repeated none .rawJson [] := ⟨hr, rfl⟩
  obtain ⟨-, heffects⟩ := start_staged (f := unstarted) rfl repeating
  obtain ⟨-, ⟨hredaction, -⟩, ⟨hasked, -⟩, hlaunches, -⟩ := heffects _ _ Prod.mk.eta.symm
  obtain ⟨hlaunched, hflag⟩ := hlaunches _ _ _ _ hp
  have hquiet : ¬ (unstarted.raised repeated).Signalled (unstarted.start repeating).2.hub := by
    have hnone : acknowledged
        ((unstarted.raised repeated).since (unstarted.start repeating).2.hub) = [] := by
      apply List.eq_nil_of_length_eq_zero
      decide +kernel
    intro hs
    cases hs with
    | thread hp hb _ _ =>
      have hnil : (unstarted.raised repeated).schedule = [] := rfl
      rw [hnil] at hp
      rw [(List.append_eq_nil_iff.1 hp.symm).1] at hb
      cases hb
    | hook he _ =>
      rw [hnone] at he
      cases he
  exact ⟨rfl, hasked _ _ _ hr, hlaunched.calls, hredaction _ ha, hflag nofun hquiet⟩

end Feed

end ChangeFeed
