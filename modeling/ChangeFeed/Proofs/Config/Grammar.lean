import ChangeFeed.Config.Reader
import ChangeFeed.Proofs.Config.Numeral
import Mathlib.Algebra.Group.Nat.Defs
import Mathlib.Data.List.Forall2

/-!
# Which properties make a configuration

`Acceptable` is the grammar of properties, and `Configures` says which configuration they make; both
speak of the properties only, not of how they are read. The settings are read one after
the other into a draft, and `takeAll_givenSettings` says what the draft is in the end: what was put
on the command line for one setting has no effect on any other.
-/

namespace ChangeFeed

/-- The properties that a configuration depends on. -/
def knownProperties : List String :=
  ["name", "couchbase.bucket", "couchbase.topic", "couchbase.event.filter",
    "couchbase.source.handler", "couchbase.batch.size.max", "couchbase.connector.name.in.offsets",
    "couchbase.log.redaction", "couchbase.partitions"]

/-- Properties that make a configuration. -/
structure Acceptable (p : Properties) : Prop where
  bucket : ∃ v, Setting.bucket.lookUp p = some v
  partitions : ∃ v, Setting.partitions.lookUp p = some v ∧
    ∀ piece ∈ v.toList.splitOn ',', ∃ n ≤ 65535, Text.Padded piece n
  batchSizeMax : ∀ v, Setting.batchSizeMax.lookUp p = some v →
    ∃ n, 1 ≤ n ∧ n < 2 ^ 64 ∧ Text.Numeral v.toList n
  connectorNameInOffsets : ∀ v, Setting.connectorNameInOffsets.lookUp p = some v →
    v = "true" ∨ v = "false"
  logRedaction : ∀ v, Setting.logRedaction.lookUp p = some v →
    v = "none" ∨ v = "partial" ∨ v = "full"
  name : ∃ v, Setting.name.lookUp p = some v ∧ ∃ c ∈ v.toList, ¬ Text.isBlank c

/-- The properties make the configuration: it holds what they say, as they say it, and the default
where they say nothing. -/
structure Configures (p : Properties) (c : FeedConfig) : Prop where
  name : Setting.name.lookUp p = some c.name
  notBlank : ∃ x ∈ c.name.toList, ¬ Text.isBlank x
  bucket : Setting.bucket.lookUp p = some c.bucket
  topic : c.topic = (Setting.topic.lookUp p).getD "couchbase"
  eventFilter : c.eventFilter = Setting.eventFilter.lookUp p
  sourceHandler : c.sourceHandler = (Setting.sourceHandler.lookUp p).getD "raw_json"
  batchSizeMax : (Setting.batchSizeMax.lookUp p).elim (c.batchSizeMax.1 = 2000)
    fun v => Text.Numeral v.toList c.batchSizeMax.1 ∧ c.batchSizeMax.1 < 2 ^ 64
  connectorNameInOffsets : (Setting.connectorNameInOffsets.lookUp p).elim
    (c.connectorNameInOffsets = false) fun v =>
      v = if c.connectorNameInOffsets then "true" else "false"
  logRedaction : c.logRedaction.name = (Setting.logRedaction.lookUp p).getD "none"
  partitions : ∃ v, Setting.partitions.lookUp p = some v ∧
    List.Forall₂ (fun piece n => Text.Padded piece n.toNat) (v.toList.splitOn ',') c.partitions

/-- A computation that goes on after another one succeeds exactly if both do. -/
lemma bind_eq_ok_iff {ε α β : Type} {x : Except ε α} {f : α → Except ε β} {b : β} :
    x >>= f = .ok b ↔ ∃ a, x = .ok a ∧ f a = .ok b := by
  cases x with
  | error e => simp [bind, Except.bind]
  | ok a => simp [bind, Except.bind]

namespace Setting

variable {p : Properties} {v : String}

/-- Every setting is in the list of settings. -/
lemma mem_all (s : Setting) : s ∈ all := by
  cases s <;> decide

/-- The pieces of a list value are what stands between its commas. -/
lemma pieces_eq (cs : List Char) : pieces cs = cs.splitOn ',' := by
  induction cs with
  | nil => rfl
  | cons c rest ih =>
    rw [pieces, ih, List.splitOn_cons_eq_if_modifyHead]
    by_cases hc : c = ','
    · simp [hc]
    · rw [if_neg hc, if_neg (by simpa using hc)]
      obtain ⟨piece, more, hr⟩ := List.exists_cons_of_ne_nil (List.splitOn_ne_nil ',' rest)
      rw [hr]
      rfl

/-- A partition is a numeral of 16 bits with blanks around it. -/
lemma readPartition_eq_ok_iff {piece : List Char} {n : UInt16} :
    readPartition piece = .ok n ↔ Text.Padded piece n.toNat := by
  have hr : readPartition piece = .ok n ↔
      Text.readNumeral maxPartition (Text.trim piece) = .ok n.toNat := by
    unfold readPartition
    cases hm : Text.readNumeral maxPartition (Text.trim piece) with
    | error cause => simp
    | ok m =>
      have hlt : m < UInt16.size := Nat.lt_of_le_pred (by decide) (Text.readNumeral_le hm)
      simp only [Except.ok.injEq, ← UInt16.toNat_inj, UInt16.toNat_ofNat_of_lt' hlt]
  have hn : n.toNat ≤ maxPartition := Nat.le_sub_one_of_lt n.toNat_lt
  rw [hr, Text.readNumeral_eq_ok_iff, Text.numeral_trim_iff]
  exact and_iff_left hn

/-- A list of partitions is read piece by piece. -/
lemma readPartitionPieces_eq_ok_iff {pieces : List (List Char)} {ns : List UInt16} :
    readPartitionPieces pieces = .ok ns ↔
      List.Forall₂ (fun piece n => Text.Padded piece n.toNat) pieces ns := by
  induction pieces generalizing ns with
  | nil =>
    rw [List.forall₂_nil_left_iff, readPartitionPieces, Except.ok.injEq]
    exact eq_comm
  | cons piece rest ih =>
    rw [List.forall₂_cons_left_iff, readPartitionPieces]
    simp only [bind_eq_ok_iff, readPartition_eq_ok_iff, ih, pure, Except.pure, Except.ok.injEq]
    constructor
    · rintro ⟨m, hm, ms, hms, rfl⟩
      exact ⟨m, ms, hm, hms, rfl⟩
    · rintro ⟨m, ms, hm, hms, rfl⟩
      exact ⟨m, hm, ms, hms, rfl⟩

/-- A list of partitions is read piece by piece. -/
lemma readPartitions_eq_ok_iff {ns : List UInt16} :
    readPartitions v = .ok ns ↔
      List.Forall₂ (fun piece n => Text.Padded piece n.toNat) (v.toList.splitOn ',') ns := by
  rw [readPartitions, pieces_eq, readPartitionPieces_eq_ok_iff]

/-- A batch size is a positive numeral of 64 bits. -/
lemma readBatchSize_eq_ok_iff {n : BatchLimit} :
    readBatchSize v = .ok n ↔ Text.Numeral v.toList n.1 ∧ n.1 < 2 ^ 64 := by
  have hr : readBatchSize v = .ok n ↔ Text.readPositive maxBatch v.toList = .ok n := by
    unfold readBatchSize
    cases Text.readPositive maxBatch v.toList <;> simp
  rw [hr, Text.readPositive_eq_ok_iff]
  exact and_congr_right fun _ => Nat.le_sub_one_iff_lt (by decide)

/-- A flag is one of two words. -/
lemma readFlag_eq_ok_iff {b : Bool} :
    readFlag v = .ok b ↔ v = if b then "true" else "false" := by
  unfold readFlag
  split
  · rename_i hv
    subst hv
    cases b <;> decide
  · rename_i ht
    split
    · rename_i hv
      subst hv
      cases b <;> decide
    · rename_i hf
      cases b
      · simpa using hf
      · simpa using ht

/-- A level is one of three names. -/
lemma readLevel_eq_ok_iff {level : RedactionLevel} :
    readLevel v = .ok level ↔ v = level.name := by
  unfold readLevel
  cases ho : RedactionLevel.ofName? v with
  | none =>
    constructor
    · exact fun h => absurd h (by simp)
    · rintro rfl
      rw [RedactionLevel.ofName?_name] at ho
      cases ho
  | some found =>
    have hv : v = found.name := by
      have := List.find?_some ho
      exact (by simpa using this : found.name = v).symm
    subst hv
    constructor
    · intro h
      rw [Except.ok.inj h]
    · intro h
      have := RedactionLevel.ofName?_name level
      rw [← h, ho] at this
      rw [Option.some.inj this]

end Setting

namespace Draft

variable {d : Draft}

/-- Reads the value of a setting if it has one. -/
def offer (d : Draft) (s : Setting) : Option String → Except ArgumentError Draft
  | none => .ok d
  | some value => d.take s value

/-- Taking what is given offers each setting in its turn. -/
lemma takeAll_cons (d : Draft) (p : Properties) (s : Setting) (rest : List Setting) :
    d.takeAll ((s :: rest).filterMap fun s => (s.lookUp p).map (s, ·)) =
      d.offer s (s.lookUp p) >>= fun e =>
        e.takeAll (rest.filterMap fun s => (s.lookUp p).map (s, ·)) := by
  cases hv : s.lookUp p with
  | none =>
    rw [List.filterMap_cons_none (by rw [hv]; rfl)]
    rfl
  | some value =>
    rw [List.filterMap_cons_some (by rw [hv]; rfl)]
    rfl

/-- The draft in which a setting is what its value, if it has one, is read to. -/
def settle (d : Draft) (v : Option String) : Setting → Except ArgumentError Draft
  | .name => .ok { d with name := v }
  | .bucket => .ok { d with bucket := v }
  | .topic => .ok { d with topic := v }
  | .eventFilter => .ok { d with eventFilter := v }
  | .sourceHandler => .ok { d with sourceHandler := v }
  | .batchSizeMax => do
    let limit ← v.mapM Setting.readBatchSize
    return { d with batchSizeMax := limit }
  | .connectorNameInOffsets => do
    let flag ← v.mapM Setting.readFlag
    return { d with connectorNameInOffsets := flag }
  | .logRedaction => do
    let level ← v.mapM Setting.readLevel
    return { d with logRedaction := level }
  | .partitions => do
    let partitions ← v.mapM Setting.readPartitions
    return { d with partitions := partitions }

/-- Whether a setting was not read yet. -/
def lacks (d : Draft) : Setting → Bool
  | .name => d.name.isNone
  | .bucket => d.bucket.isNone
  | .topic => d.topic.isNone
  | .eventFilter => d.eventFilter.isNone
  | .sourceHandler => d.sourceHandler.isNone
  | .batchSizeMax => d.batchSizeMax.isNone
  | .connectorNameInOffsets => d.connectorNameInOffsets.isNone
  | .logRedaction => d.logRedaction.isNone
  | .partitions => d.partitions.isNone

/-- The first value that a setting is given decides it. -/
lemma offer_eq_settle {s : Setting} (v : Option String) (hd : d.lacks s) :
    d.offer s v = d.settle v s := by
  obtain ⟨name, bucket, topic, filter, handler, limit, flag, level, partitions⟩ := d
  cases v with
  | none => cases s <;> obtain rfl := Option.isNone_iff_eq_none.1 hd <;> rfl
  | some value =>
    cases s <;> obtain rfl := Option.isNone_iff_eq_none.1 hd <;> try rfl
    -- what is left are the settings whose values can be bad
    case batchSizeMax =>
      rw [offer, take, settle, Option.mapM_some]
      cases Setting.readBatchSize value <;> rfl
    case connectorNameInOffsets =>
      rw [offer, take, settle, Option.mapM_some]
      cases Setting.readFlag value <;> rfl
    case logRedaction =>
      rw [offer, take, settle, Option.mapM_some]
      cases Setting.readLevel value <;> rfl
    case partitions =>
      rw [offer, take, settle, Option.mapM_some]
      cases Setting.readPartitions value <;> rfl

/-- Settling one setting leaves the others as they are. -/
lemma lacks_of_settle {s t : Setting} {v : Option String} {e : Draft} (he : d.settle v s = .ok e)
    (ht : t ≠ s) : e.lacks t = d.lacks t := by
  cases s with
  | name | bucket | topic | eventFilter | sourceHandler =>
    obtain rfl := Except.ok.inj he
    cases t <;> first | rfl | exact absurd rfl ht
  | batchSizeMax | connectorNameInOffsets | logRedaction | partitions =>
    obtain ⟨x, -, hx⟩ := bind_eq_ok_iff.1 he
    obtain rfl := Except.ok.inj hx
    cases t <;> first | rfl | exact absurd rfl ht

/-- Settings that differ from each other are settled one after the other. -/
lemma takeAll_eq_foldlM (p : Properties) {settings : List Setting} (hn : settings.Nodup)
    (hd : ∀ s ∈ settings, d.lacks s) :
    d.takeAll (settings.filterMap fun s => (s.lookUp p).map (s, ·)) =
      settings.foldlM (fun d s => d.settle (s.lookUp p) s) d := by
  induction settings generalizing d with
  | nil => rfl
  | cons s rest ih =>
    obtain ⟨hs, hrest⟩ := List.nodup_cons.1 hn
    rw [takeAll_cons, offer_eq_settle _ (hd s List.mem_cons_self), List.foldlM_cons]
    cases he : d.settle (s.lookUp p) s with
    | error cause => rfl
    | ok e =>
      apply ih hrest
      intro t ht
      have hts : t ≠ s := by
        rintro rfl
        exact hs ht
      rw [lacks_of_settle he hts]
      exact hd t (List.mem_cons_of_mem _ ht)

/-- What the draft is after all settings of a command line. -/
lemma takeAll_givenSettings (p : Properties) :
    empty.takeAll (givenSettings p) = (do
      let limit ← (Setting.batchSizeMax.lookUp p).mapM Setting.readBatchSize
      let flag ← (Setting.connectorNameInOffsets.lookUp p).mapM Setting.readFlag
      let level ← (Setting.logRedaction.lookUp p).mapM Setting.readLevel
      let partitions ← (Setting.partitions.lookUp p).mapM Setting.readPartitions
      return ⟨Setting.name.lookUp p, Setting.bucket.lookUp p, Setting.topic.lookUp p,
        Setting.eventFilter.lookUp p, Setting.sourceHandler.lookUp p, limit, flag, level,
        partitions⟩) := by
  have hok {α β : Type} (a : α) (f : α → Except ArgumentError β) : (Except.ok a >>= f) = f a := rfl
  rw [givenSettings, takeAll_eq_foldlM p (by decide) (by decide), Setting.all]
  simp only [List.foldlM_cons, List.foldlM_nil, settle, hok, bind_assoc, pure_bind]

/-- A draft is complete if bucket and partitions were read. -/
lemma complete_eq_ok_iff {c : FeedConfig} :
    d.complete = .ok c ↔
      d.bucket = some c.bucket ∧ d.partitions = some c.partitions ∧ c.name = d.name.getD "" ∧
      c.topic = d.topic.getD "couchbase" ∧ c.eventFilter = d.eventFilter ∧
      c.sourceHandler = d.sourceHandler.getD "raw_json" ∧
      c.batchSizeMax = d.batchSizeMax.getD ⟨2000, by decide⟩ ∧
      c.connectorNameInOffsets = d.connectorNameInOffsets.getD false ∧
      c.logRedaction = d.logRedaction.getD .none := by
  obtain ⟨name, bucket, topic, filter, handler, limit, flag, level, partitions⟩ := d
  obtain ⟨name', bucket', topic', filter', handler', limit', flag', level', partitions'⟩ := c
  cases bucket <;> cases partitions <;> simp [complete]
  grind

/-- A value that may be missing is read just if it is missing or can be read. -/
lemma mapM_eq_ok_iff {α : Type} {read : String → Except ArgumentError α} {v : Option String}
    {x : Option α} :
    v.mapM read = .ok x ↔ v.elim (x = none) fun s => ∃ a, x = some a ∧ read s = .ok a := by
  cases v with
  | none => simp [pure, Except.pure, eq_comm]
  | some s =>
    rw [Option.mapM_some]
    cases hr : read s with
    | error e => simp [hr]
    | ok a => simp [hr, eq_comm]

end Draft

namespace FeedConfig

variable {p : Properties} {c : FeedConfig}

/-- What properties set is what they give. -/
lemma settingsOf_eq (p : Properties) : settingsOf p = givenSettings p := by
  simp [settingsOf, readArguments_commandLine]

/-- The settings, without regard to the name, are read if the values present are good and bucket and
partitions are there. -/
lemma readSettings_eq_ok_iff :
    readSettings p = .ok c ↔
      ∃ limit flag level partitions,
        (Setting.batchSizeMax.lookUp p).mapM Setting.readBatchSize = .ok limit ∧
        (Setting.connectorNameInOffsets.lookUp p).mapM Setting.readFlag = .ok flag ∧
        (Setting.logRedaction.lookUp p).mapM Setting.readLevel = .ok level ∧
        (Setting.partitions.lookUp p).mapM Setting.readPartitions = .ok partitions ∧
        Draft.complete ⟨Setting.name.lookUp p, Setting.bucket.lookUp p, Setting.topic.lookUp p,
          Setting.eventFilter.lookUp p, Setting.sourceHandler.lookUp p, limit, flag, level,
          partitions⟩ = .ok c := by
  rw [readSettings, settingsOf_eq, Draft.takeAll_givenSettings]
  simp only [bind_assoc, pure_bind, bind_eq_ok_iff]
  grind

/-- Last of all the name is looked at. -/
lemma ofProperties_eq_ok_iff :
    ofProperties p = .ok c ↔ readSettings p = .ok c ∧ ∃ x ∈ c.name.toList, ¬ Text.isBlank x := by
  have hb (d : FeedConfig) :
      (∃ x ∈ d.name.toList, ¬ Text.isBlank x) ↔ (Text.trim d.name.toList).isEmpty = false := by
    rw [← Bool.not_eq_true, List.isEmpty_iff, Text.trim_eq_nil_iff]
    push Not
    rfl
  rw [hb]
  unfold ofProperties
  cases readSettings p with
  | error e => simp
  | ok d =>
    cases hd : (Text.trim d.name.toList).isEmpty
    · simp only [hd, Bool.false_eq_true, if_false, Except.ok.injEq]
      exact ⟨fun h => ⟨h, h ▸ hd⟩, And.left⟩
    · simp only [hd, if_true, Except.ok.injEq, reduceCtorEq, false_iff, not_and]
      rintro rfl
      simp [hd]

/-- Reading gives just the configuration that the properties make. -/
lemma ofProperties_eq_ok_iff_configures : ofProperties p = .ok c ↔ Configures p c := by
  rw [ofProperties_eq_ok_iff, readSettings_eq_ok_iff]
  simp only [Draft.complete_eq_ok_iff, Draft.mapM_eq_ok_iff, Setting.readBatchSize_eq_ok_iff,
    Setting.readFlag_eq_ok_iff, Setting.readLevel_eq_ok_iff, Setting.readPartitions_eq_ok_iff]
  constructor
  · rintro ⟨⟨limit, flag, level, partitions, hl, hf, hr, hp, hb, hps, hname, htopic, hfilter,
      hhandler, hlimit, hflag, hlevel⟩, hx⟩
    refine ⟨?_, hx, hb, htopic, hfilter, hhandler, ?_, ?_, ?_, ?_⟩
    · cases hn : Setting.name.lookUp p with
      | none =>
        obtain ⟨x, hx, -⟩ := hx
        simp [hname, hn] at hx
      | some v => simp [hname, hn]
    · cases hv : Setting.batchSizeMax.lookUp p with
      | none =>
        rw [hv] at hl
        obtain rfl : limit = none := hl
        rw [hlimit]
        rfl
      | some v =>
        rw [hv] at hl
        obtain ⟨n, rfl, hn⟩ := hl
        rw [hlimit]
        exact hn
    · cases hv : Setting.connectorNameInOffsets.lookUp p with
      | none => simp_all
      | some v =>
        rw [hv] at hf
        obtain ⟨b, rfl, hb⟩ := hf
        rw [hflag]
        exact hb
    · cases hv : Setting.logRedaction.lookUp p with
      | none =>
        simp_all
        rfl
      | some v =>
        rw [hv] at hr
        obtain ⟨l, rfl, hl⟩ := hr
        rw [hlevel]
        exact hl.symm
    · cases hv : Setting.partitions.lookUp p with
      | none => simp_all
      | some v =>
        rw [hv] at hp
        obtain ⟨ps, rfl, hv⟩ := hp
        obtain rfl := Option.some.inj hps
        exact ⟨v, rfl, hv⟩
  · intro h
    refine ⟨⟨(Setting.batchSizeMax.lookUp p).map fun _ => c.batchSizeMax,
      (Setting.connectorNameInOffsets.lookUp p).map fun _ => c.connectorNameInOffsets,
      (Setting.logRedaction.lookUp p).map fun _ => c.logRedaction, some c.partitions,
      ?_, ?_, ?_, ?_, h.bucket, rfl, ?_, h.topic, h.eventFilter, h.sourceHandler, ?_, ?_, ?_⟩,
      h.notBlank⟩
    · have hl := h.batchSizeMax
      cases hv : Setting.batchSizeMax.lookUp p with
      | none => rfl
      | some v => exact ⟨_, rfl, by simpa [hv] using hl⟩
    · have hf := h.connectorNameInOffsets
      cases hv : Setting.connectorNameInOffsets.lookUp p with
      | none => rfl
      | some v => exact ⟨_, rfl, by simpa [hv] using hf⟩
    · have hr := h.logRedaction
      cases hv : Setting.logRedaction.lookUp p with
      | none => rfl
      | some v => exact ⟨_, rfl, by simpa [hv] using hr.symm⟩
    · obtain ⟨v, hv, hp⟩ := h.partitions
      rw [hv]
      exact ⟨_, rfl, hp⟩
    · rw [h.name]
      rfl
    · have hl := h.batchSizeMax
      cases hv : Setting.batchSizeMax.lookUp p with
      | none =>
        rw [hv] at hl
        exact Subtype.ext hl
      | some v => rfl
    · have hf := h.connectorNameInOffsets
      cases hv : Setting.connectorNameInOffsets.lookUp p with
      | none => simpa [hv] using hf
      | some v => rfl
    · have hr := h.logRedaction
      cases hv : Setting.logRedaction.lookUp p with
      | none =>
        rw [hv] at hr
        cases hc : c.logRedaction <;> rw [hc] at hr <;> first | rfl | exact absurd hr (by decide)
      | some v => rfl

end FeedConfig

/-- Each member of a list is related to something just if the list is related to some list. -/
lemma exists_forall₂_iff {α β : Type} {R : α → β → Prop} {xs : List α} :
    (∃ ys, List.Forall₂ R xs ys) ↔ ∀ x ∈ xs, ∃ y, R x y := by
  induction xs with
  | nil => simp
  | cons x rest ih =>
    rw [List.forall_mem_cons, ← ih]
    constructor
    · rintro ⟨ys, hys⟩
      cases hys with
      | cons hy hrest => exact ⟨⟨_, hy⟩, _, hrest⟩
    · rintro ⟨⟨y, hy⟩, ys, hys⟩
      exact ⟨y :: ys, .cons hy hys⟩

section

variable {p : Properties}

/-- What makes a configuration is acceptable. -/
lemma Configures.acceptable {c : FeedConfig} (h : Configures p c) : Acceptable p := by
  refine ⟨⟨_, h.bucket⟩, ?_, ?_, ?_, ?_, ⟨_, h.name, h.notBlank⟩⟩
  · obtain ⟨v, hv, hp⟩ := h.partitions
    refine ⟨v, hv, ?_⟩
    intro piece hpiece
    obtain ⟨n, hn⟩ := exists_forall₂_iff.1 ⟨_, hp⟩ piece hpiece
    exact ⟨n.toNat, Nat.le_of_lt_succ n.toNat_lt, hn⟩
  · intro v hv
    have hl := h.batchSizeMax
    rw [hv] at hl
    exact ⟨_, c.batchSizeMax.2, hl.2, hl.1⟩
  · intro v hv
    have hf := h.connectorNameInOffsets
    rw [hv] at hf
    cases hc : c.connectorNameInOffsets <;> rw [hc] at hf
    · exact .inr hf
    · exact .inl hf
  · intro v hv
    have hr := h.logRedaction
    rw [hv] at hr
    cases hc : c.logRedaction <;> rw [hc] at hr
    · exact .inl hr.symm
    · exact .inr (.inl hr.symm)
    · exact .inr (.inr hr.symm)

/-- What is acceptable makes a configuration. -/
lemma Acceptable.configures (h : Acceptable p) : ∃ c, Configures p c := by
  obtain ⟨name, hname, hblank⟩ := h.name
  obtain ⟨bucket, hbucket⟩ := h.bucket
  obtain ⟨list, hlist, hpieces⟩ := h.partitions
  obtain ⟨partitions, hp⟩ : ∃ ns : List UInt16,
      List.Forall₂ (fun piece n => Text.Padded piece n.toNat) (list.toList.splitOn ',') ns := by
    apply exists_forall₂_iff.2
    intro piece hpiece
    obtain ⟨n, hn, hpad⟩ := hpieces piece hpiece
    refine ⟨UInt16.ofNat n, ?_⟩
    rwa [UInt16.toNat_ofNat_of_lt' (Nat.lt_succ_of_le hn)]
  obtain ⟨limit, hlimit⟩ : ∃ limit : BatchLimit, (Setting.batchSizeMax.lookUp p).elim
      (limit.1 = 2000) fun v => Text.Numeral v.toList limit.1 ∧ limit.1 < 2 ^ 64 := by
    cases hv : Setting.batchSizeMax.lookUp p with
    | none => exact ⟨⟨2000, by decide⟩, rfl⟩
    | some v =>
      obtain ⟨n, hpos, hlt, hn⟩ := h.batchSizeMax v hv
      exact ⟨⟨n, hpos⟩, hn, hlt⟩
  obtain ⟨flag, hflag⟩ : ∃ flag : Bool, (Setting.connectorNameInOffsets.lookUp p).elim
      (flag = false) fun v => v = if flag then "true" else "false" := by
    cases hv : Setting.connectorNameInOffsets.lookUp p with
    | none => exact ⟨false, rfl⟩
    | some v =>
      rcases h.connectorNameInOffsets v hv with rfl | rfl
      · exact ⟨true, rfl⟩
      · exact ⟨false, rfl⟩
  obtain ⟨level, hlevel⟩ : ∃ level : RedactionLevel,
      level.name = (Setting.logRedaction.lookUp p).getD "none" := by
    cases hv : Setting.logRedaction.lookUp p with
    | none => exact ⟨.none, rfl⟩
    | some v =>
      rcases h.logRedaction v hv with rfl | rfl | rfl
      · exact ⟨.none, rfl⟩
      · exact ⟨.part, rfl⟩
      · exact ⟨.full, rfl⟩
  exact ⟨⟨name, bucket, _, _, _, limit, flag, level, partitions⟩, hname, hblank, hbucket, rfl, rfl,
    rfl, hlimit, hflag, hlevel, list, hlist, hp⟩

end

namespace FeedConfig

/-- Properties give a configuration exactly if they are acceptable, and it is the one that they
make. Only the known properties matter, and each argument of the command line is read as the setting
and the value that it was made of, whatever the value. -/
theorem grammar (p : Properties) :
    ((∃ c, ofProperties p = .ok c) ↔ Acceptable p) ∧
    (∀ c, ofProperties p = .ok c ↔ Configures p c) ∧
    (∀ q : Properties,
      (∀ key ∈ knownProperties, Dictionary.find? key p = Dictionary.find? key q) →
        ofProperties p = ofProperties q) ∧
    Setting.all.map Setting.property = knownProperties ∧
    (∀ s v, readArgument (s.assign v) = some (s, v)) ∧
    readArguments (commandLine p) = some (givenSettings p) ∧
    ∀ s v, (s, v) ∈ givenSettings p ↔ s.lookUp p = some v := by
  have hkeys : Setting.all.map Setting.property = knownProperties := by decide
  refine ⟨?_, fun c => ofProperties_eq_ok_iff_configures, ?_, hkeys, readArgument_assign,
    readArguments_commandLine p, ?_⟩
  · simp only [ofProperties_eq_ok_iff_configures]
    constructor
    · rintro ⟨c, hc⟩
      exact hc.acceptable
    · exact fun h => h.configures
  · intro q hq
    have hl : ∀ s : Setting, s.lookUp p = s.lookUp q := by
      intro s
      apply hq
      rw [← hkeys]
      exact List.mem_map_of_mem s.mem_all
    have hg : givenSettings p = givenSettings q := by
      simp only [givenSettings, hl]
    rw [ofProperties, readSettings, settingsOf_eq, hg, ← settingsOf_eq]
    rfl
  · intro s v
    simp [givenSettings, List.mem_filterMap, s.mem_all]

/-- A property that is not known changes nothing, and neither does what a value looks like. -/
theorem grammar_foreign_property :
    let p : Properties := [("couchbase.bucket", "--partitions=9"),
      ("couchbase.partitions", " +1,007 "), ("name", "=,--bucket")]
    let q : Properties := ("bucket", "other") :: p
    (∀ key ∈ knownProperties, Dictionary.find? key p = Dictionary.find? key q) ∧
      ofProperties p = ofProperties q ∧
      ofProperties p = .ok ⟨"=,--bucket", "--partitions=9", "couchbase", none, "raw_json",
        ⟨2000, by decide⟩, false, .none, [1, 7]⟩ := by
  have h : ∀ key ∈ knownProperties, Dictionary.find? key
      [("couchbase.bucket", "--partitions=9"), ("couchbase.partitions", " +1,007 "),
        ("name", "=,--bucket")] = Dictionary.find? key
      [("bucket", "other"), ("couchbase.bucket", "--partitions=9"),
        ("couchbase.partitions", " +1,007 "), ("name", "=,--bucket")] := by decide
  exact ⟨h, (grammar _).2.2.1 _ h, by rfl⟩

end FeedConfig

end ChangeFeed
