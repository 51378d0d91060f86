import ChangeFeed.Doubles
import ChangeFeed.Proofs.Feed.Path

/-!
# The stages of a start

A new feed is started in stages, and the first that fails ends the start: its settings are read, its
name is looked at, its filter and its source handler are looked up, the saved positions are asked
for and decoded, and the reader is asked for. `Accepted`, `Resolved` and `Prepared` say how far a
start gets; `Staged` says for each stage at which it can end what it comes to and what it leaves. A
start is staged in one way only, so that what a start does or leaves alone is read off the stage at
which it ends.
-/

namespace ChangeFeed

/-- The properties are a configuration: its settings can be read, and its name is not blank. -/
structure Accepted (properties : Properties) (config : FeedConfig) : Prop where
  settings : FeedConfig.readSettings properties = .ok config
  name : (Text.trim config.name.toList).isEmpty = false

/-- Why properties are no configuration: a setting cannot be read, or the name is blank. -/
inductive Unaccepted (properties : Properties) : ConfigError → Prop where
  | invalid {e} :
    FeedConfig.readSettings properties = .error e →
    Unaccepted properties (.invalid e)
  | blankName {config} :
    FeedConfig.readSettings properties = .ok config →
    (Text.trim config.name.toList).isEmpty = true →
    Unaccepted properties .blankName

/-- The filter is the one that a configuration names; there is none if it names none. -/
inductive FilterOf (registry : Registry) (config : FeedConfig) : Option Filter → Prop where
  | unnamed :
    config.eventFilter = none →
    FilterOf registry config none
  | named {name filter} :
    config.eventFilter = some name →
    Dictionary.find? name registry.filters = some filter →
    FilterOf registry config (some filter)

/-- The configuration is accepted, and its filter and its source handler are registered. -/
structure Resolved (registry : Registry) (properties : Properties) (config : FeedConfig)
    (filter : Option Filter) (handler : Handler) : Prop where
  accepted : Accepted properties config
  filter : FilterOf registry config filter
  handler : Dictionary.find? config.sourceHandler registry.handlers = some handler

/-- Why a configuration cannot be followed: its filter is not registered, or its filter is all right
and its source handler is not registered. -/
inductive Unresolved (registry : Registry) (config : FeedConfig) : ConfigError → Prop where
  | filter {name} :
    config.eventFilter = some name →
    Dictionary.find? name registry.filters = none →
    Unresolved registry config (.unknownFilter name)
  | handler {filter} :
    FilterOf registry config filter →
    Dictionary.find? config.sourceHandler registry.handlers = none →
    Unresolved registry config (.unknownHandler config.sourceHandler)

/-- What is asked of the storage for a configuration. -/
def FeedConfig.asked (config : FeedConfig) : List JsonMap :=
  (Feed.codec config).sourcePartitions config.partitions

/-- Besides, what the storage answers for the configured partitions can be decoded. -/
structure Prepared {ρ : Type} (context : FeedContext ρ) (properties : Properties)
    (config : FeedConfig) (filter : Option Filter) (handler : Handler)
    (positions : Positions) : Prop where
  resolved : Resolved context.registry properties config filter handler
  positions : Codec.decodeOffsets (context.storage config.asked) = .ok positions

section

variable {properties : Properties} {registry : Registry} {config other : FeedConfig}
  {filter filter' : Option Filter} {handler handler' : Handler} {cause : ConfigError}

/-- An accepted configuration is what the properties are read as. -/
lemma Accepted.ofProperties (ha : Accepted properties config) :
    FeedConfig.ofProperties properties = .ok config := by
  rw [FeedConfig.ofProperties, ha.settings]
  simp [ha.name]

/-- Properties are one configuration at most. -/
lemma Accepted.unique (ha : Accepted properties config) (hb : Accepted properties other) :
    other = config :=
  Except.ok.inj (hb.settings.symm.trans ha.settings)

/-- Why properties are no configuration is what reading them fails with. -/
lemma Unaccepted.ofProperties (hu : Unaccepted properties cause) :
    FeedConfig.ofProperties properties = .error cause := by
  cases hu with
  | invalid hr => simp only [FeedConfig.ofProperties, hr]
  | blankName hr hb => simp only [FeedConfig.ofProperties, hr, if_pos hb]

/-- What is no configuration is not accepted as one. -/
lemma Unaccepted.not_accepted (hu : Unaccepted properties cause) :
    ¬ Accepted properties config := by
  intro ha
  have heq := hu.ofProperties
  rw [ha.ofProperties] at heq
  cases heq

/-- The filter of a configuration is the one that a start looks up. -/
lemma FilterOf.findFilter_eq (hf : FilterOf registry config filter) :
    Feed.findFilter registry config = .ok filter := by
  cases hf with
  | unnamed hn => rw [Feed.findFilter, hn]
  | named hn hfind =>
    rw [Feed.findFilter, hn]
    simp [Registry.filter, hfind, Except.map]

/-- A configuration is followed in one way at most. -/
lemma Resolved.unique (hr : Resolved registry properties config filter handler)
    (hs : Resolved registry properties other filter' handler') :
    other = config ∧ filter' = filter ∧ handler' = handler := by
  obtain rfl := hr.accepted.unique hs.accepted
  have hf := hs.filter.findFilter_eq.symm.trans hr.filter.findFilter_eq
  exact ⟨rfl, Except.ok.inj hf, Option.some.inj (hs.handler.symm.trans hr.handler)⟩

/-- A start is prepared for its reader in one way at most. -/
lemma Prepared.unique {ρ : Type} {context : FeedContext ρ} {positions positions' : Positions}
    (hp : Prepared context properties config filter handler positions)
    (hq : Prepared context properties other filter' handler' positions') :
    other = config ∧ filter' = filter ∧ handler' = handler ∧ positions' = positions := by
  obtain ⟨rfl, rfl, rfl⟩ := hp.resolved.unique hq.resolved
  exact ⟨rfl, rfl, rfl, Except.ok.inj (hq.positions.symm.trans hp.positions)⟩

/-- What cannot be followed is not resolved. -/
lemma Unresolved.not_resolved (hu : Unresolved registry config cause) :
    ¬ Resolved registry properties config filter handler := by
  rintro ⟨-, hf, hh⟩
  cases hu with
  | filter hn hfind =>
    cases hf with
    | unnamed hn' =>
      rw [hn] at hn'
      cases hn'
    | named hn' hfind' =>
      obtain rfl := Option.some.inj (hn.symm.trans hn')
      rw [hfind] at hfind'
      cases hfind'
  | handler _ hfind =>
    rw [hfind] at hh
    cases hh

end

namespace Feed

variable {ρ : Type}

/-- The hub of a feed whose configuration was accepted. -/
def configured (f : Feed ρ) (config : FeedConfig) : Hub :=
  { f.hub.yield with redaction := config.logRedaction }

/-- The hub of a feed that asked for the saved positions. -/
def consulting (f : Feed ρ) (config : FeedConfig) : Hub :=
  ((f.configured config).yield.record (.consulted config.asked)).log rawOffsetsLine

/-- The hub of a feed that has everything but the reader. -/
def ready (f : Feed ρ) (config : FeedConfig) : Hub :=
  ((f.consulting config).log positionsLine).yield

/-- The hub when the running flag was set. -/
def raised (f : Feed ρ) (config : FeedConfig) : Hub :=
  (f.ready config).setRunning true

/-- The hub at which the reader is asked for: the bridge is open and nothing is in it. -/
def opening (f : Feed ρ) (config : FeedConfig) : Hub :=
  (f.raised config).yield.openBridge

/-- The stage at which a start ends, what it comes to there, and what it leaves. -/
inductive Staged (f : Feed ρ) (properties : Properties) :
    Except FeedError Unit → Feed ρ → Prop where
  | unaccepted {cause} :
    Unaccepted properties cause →
    Staged f properties (.error (.config cause)) { f with state := .starting }
  | unresolved {config cause} :
    Accepted properties config →
    Unresolved f.context.registry config cause →
    Staged f properties (.error (.config cause))
      { f with state := .starting, hub := f.configured config }
  | undecoded {config filter handler e} :
    Resolved f.context.registry properties config filter handler →
    Codec.decodeOffsets (f.context.storage config.asked) = .error e →
    Staged f properties (.error (.offsets e))
      { f with state := .starting, hub := f.consulting config }
  | unlaunched {config filter handler positions ms cause} :
    Prepared f.context properties config filter handler positions →
    f.context.factory (.of config properties positions) = ⟨ms, .error cause⟩ →
    Staged f properties (.error (.readerStart cause))
      { f with
        state := .starting, assembler := some (assemblerOf config filter handler)
        hub := (Hub.moves ms (f.opening config)).record
          (.launched (.of config properties positions) false) }
  | launched {config filter handler positions ms reader} :
    Prepared f.context properties config filter handler positions →
    f.context.factory (.of config properties positions) = ⟨ms, .ok reader⟩ →
    Staged f properties (.ok ())
      { f with
        state := .running, assembler := some (assemblerOf config filter handler)
        reader := some reader
        hub := ((Hub.moves ms (f.opening config)).record
          (.launched (.of config properties positions) true)).log (startLine config) }

variable {f g : Feed ρ} {properties : Properties} {config : FeedConfig} {filter : Option Filter}
  {handler : Handler} {positions : Positions} {result : Except FeedError Unit}

/-- A start that is not the first is refused. -/
lemma start_of_ne_new (properties : Properties) (hn : f.state ≠ .new) :
    f.start properties = (.error (.alreadyStarted f.state), f) := by
  unfold start
  rw [if_pos hn]

/-- A start that is accepted goes on with the look-up. -/
lemma start_of_accepted (hn : f.state = .new) (ha : Accepted properties config) :
    f.start properties =
      select { f with state := .starting, hub := f.configured config } properties config := by
  rw [start, if_neg (not_not.2 hn)]
  simp only [ha.ofProperties]
  rfl

/-- A start whose collaborators are found goes on with the saved positions. -/
lemma start_of_resolved (hn : f.state = .new)
    (hr : Resolved f.context.registry properties config filter handler) :
    f.start properties =
      resume { f with state := .starting, hub := f.configured config } properties config filter
        handler := by
  rw [start_of_accepted hn hr.accepted, select]
  simp only [hr.filter.findFilter_eq, Registry.handler, hr.handler]

/-- A start with decoded positions goes on with the reader. -/
lemma start_of_prepared (hn : f.state = .new)
    (hp : Prepared f.context properties config filter handler positions) :
    f.start properties =
      launch { f with state := .starting, hub := (f.consulting config).log positionsLine }
        (.of config properties positions) (assemblerOf config filter handler) := by
  have hd := hp.positions
  rw [FeedConfig.asked] at hd
  rw [start_of_resolved hn hp.resolved, resume]
  simp only [withHub, hd]
  rfl

/-- What a start is staged to come to, it comes to. -/
lemma Staged.start_eq (hs : f.Staged properties result g) (hn : f.state = .new) :
    f.start properties = (result, g) := by
  cases hs with
  | unaccepted hu =>
    rw [start, if_neg (not_not.2 hn)]
    simp only [hu.ofProperties]
  | unresolved ha hu =>
    rw [start_of_accepted hn ha, select]
    cases hu with
    | filter hname hfind =>
      simp only [findFilter, hname, Registry.filter, hfind]
      rfl
    | handler hf hfind => simp only [hf.findFilter_eq, Registry.handler, hfind]
  | undecoded hr he =>
    rw [FeedConfig.asked] at he
    rw [start_of_resolved hn hr, resume]
    simp only [withHub, he]
    rfl
  | unlaunched hp hl | launched hp hl =>
    rw [start_of_prepared hn hp, launch]
    simp only [hl]
    rfl

/-- From asking for the saved positions on, a start ends at one of the last stages. -/
lemma staged_of_resolved (hr : Resolved f.context.registry properties config filter handler) :
    ∃ result g, f.Staged properties result g := by
  cases hd : Codec.decodeOffsets (f.context.storage config.asked) with
  | error e => exact ⟨_, _, .undecoded hr hd⟩
  | ok positions =>
    cases hl : f.context.factory (.of config properties positions) with
    | mk ms outcome =>
      cases outcome with
      | error cause => exact ⟨_, _, .unlaunched ⟨hr, hd⟩ hl⟩
      | ok reader => exact ⟨_, _, .launched ⟨hr, hd⟩ hl⟩

/-- With its filter a start gets to the look-up of the source handler. -/
lemma staged_of_filterOf (ha : Accepted properties config)
    (hf : FilterOf f.context.registry config filter) :
    ∃ result g, f.Staged properties result g := by
  cases hh : Dictionary.find? config.sourceHandler f.context.registry.handlers with
  | none => exact ⟨_, _, .unresolved ha (.handler hf hh)⟩
  | some handler => exact staged_of_resolved ⟨ha, hf, hh⟩

/-- A start ends at some stage. -/
lemma exists_staged (f : Feed ρ) (properties : Properties) :
    ∃ result g, f.Staged properties result g := by
  cases hs : FeedConfig.readSettings properties with
  | error e => exact ⟨_, _, .unaccepted (.invalid hs)⟩
  | ok config =>
    cases hb : (Text.trim config.name.toList).isEmpty with
    | true => exact ⟨_, _, .unaccepted (.blankName hs hb)⟩
    | false =>
      have ha : Accepted properties config := ⟨hs, hb⟩
      cases hname : config.eventFilter with
      | none => exact staged_of_filterOf ha (.unnamed hname)
      | some name =>
        cases hf : Dictionary.find? name f.context.registry.filters with
        | none => exact ⟨_, _, .unresolved ha (.filter hname hf)⟩
        | some filter => exact staged_of_filterOf ha (.named hname hf)

/-- A start comes to what it is staged to come to, and to nothing else. -/
lemma start_eq_iff_staged (hn : f.state = .new) :
    f.start properties = (result, g) ↔ f.Staged properties result g := by
  refine ⟨?_, fun hs => hs.start_eq hn⟩
  intro heq
  obtain ⟨result', g', hs⟩ := f.exists_staged properties
  obtain ⟨rfl, rfl⟩ := Prod.mk.inj ((hs.start_eq hn).symm.trans heq)
  exact hs

end Feed

namespace Doubles

/-- The configuration that the properties of the stand-ins are. -/
def travel : FeedConfig :=
  ⟨"travel-source", "travel", "travel-topic", none, "raw_json", ⟨1999 + 1, Nat.add_one_pos _⟩, false,
    .none, [0, 1, 2, 3]⟩

/-- The properties of the stand-ins are accepted. -/
lemma accepted_travel : Accepted (properties []) travel :=
  ⟨by decide +kernel, by decide +kernel⟩

/-- What becomes of a feed of stand-ins that is started, its reader having made moves meanwhile. -/
def launched (f : Feed StandIn) (ms : List Move) (reader : StandIn) : Feed StandIn :=
  { f with
    state := .running, assembler := some (Feed.assemblerOf travel none .rawJson)
    reader := some reader
    hub := ((Hub.moves ms (f.opening travel)).record
      (.launched (.of travel (properties []) []) true)).log (Feed.startLine travel) }

/-- With the built-in handlers, and where no positions were saved, a feed of stand-ins gets its
reader. -/
lemma start_eq_launched {f : Feed StandIn} {ms : List Move} {reader : StandIn}
    (hn : f.state = .new) (hr : f.context.registry = .builtin)
    (hs : f.context.storage = fun _ => [])
    (hl : f.context.factory (.of travel (properties []) []) = ⟨ms, .ok reader⟩) :
    f.start (properties []) = (.ok (), launched f ms reader) := by
  have hresolved : Resolved f.context.registry (properties []) travel none .rawJson := by
    rw [hr]
    exact ⟨accepted_travel, .unnamed rfl, rfl⟩
  have hdecoded : Codec.decodeOffsets (f.context.storage travel.asked) = .ok [] := by
    rw [hs]
    rfl
  exact (Feed.Staged.launched ⟨hresolved, hdecoded⟩ hl).start_eq hn

end Doubles

end ChangeFeed
