import ChangeFeed.Config.Error
import ChangeFeed.Proofs.Config.Grammar

/-!
# Which error is reported

Properties can be wrong in several places at once. Values come first: of the bad ones that of the
setting declared first is reported, and of a bad list its first bad piece. Where all values are
good, the missing settings are reported together, and where none is missing, the name. `Refuses`
says of a value why it is bad, apart from how it is read.
-/

namespace ChangeFeed

/-- A computation that goes on after another one fails exactly if either does. -/
lemma bind_eq_error_iff {ε α β : Type} {x : Except ε α} {f : α → Except ε β} {e : ε} :
    x >>= f = .error e ↔ x = .error e ∨ ∃ a, x = .ok a ∧ f a = .error e := by
  cases x with
  | error e' => simp [bind, Except.bind]
  | ok a => simp [bind, Except.bind]

/-- What comes first in a list is its head, or the head is passed over and it comes first in the
rest. -/
lemma exists_first_cons_iff {α : Type} {passed found : α → Prop} {x : α} {xs : List α} :
    (∃ before y after, x :: xs = before ++ y :: after ∧ (∀ z ∈ before, passed z) ∧ found y) ↔
      found x ∨ passed x ∧
        ∃ before y after, xs = before ++ y :: after ∧ (∀ z ∈ before, passed z) ∧ found y := by
  constructor
  · rintro ⟨before, y, after, hxs, hb, hy⟩
    obtain ⟨rfl, hr⟩ | ⟨before, rfl, rfl⟩ := List.cons_eq_append_iff.1 hxs
    · cases hr
      exact .inl hy
    · obtain ⟨hx, hb⟩ := List.forall_mem_cons.1 hb
      exact .inr ⟨hx, before, y, after, rfl, hb, hy⟩
  · rintro (hx | ⟨hx, before, y, after, rfl, hb, hy⟩)
    · exact ⟨[], x, xs, rfl, List.forall_mem_nil _, hx⟩
    · exact ⟨x :: before, y, after, rfl, List.forall_mem_cons.2 ⟨hx, hb⟩, hy⟩

namespace Setting

/-- The values that a setting allows. -/
def Allows : Setting → String → Prop
  | batchSizeMax, v => ∃ n, 1 ≤ n ∧ n < 2 ^ 64 ∧ Text.Numeral v.toList n
  | connectorNameInOffsets, v => v = "true" ∨ v = "false"
  | logRedaction, v => v = "none" ∨ v = "partial" ∨ v = "full"
  | partitions, v => ∀ piece ∈ v.toList.splitOn ',', ∃ n ≤ 65535, Text.Padded piece n
  | _, _ => True

/-- Why a setting refuses a value. -/
inductive Refuses : Setting → String → ArgumentError → Prop where
  | batchSizeMax {v cause} :
    Text.MisreadPositive maxBatch v.toList cause →
    Refuses batchSizeMax v (.badNumeral batchSizeMax v cause)
  | connectorNameInOffsets {v} :
    v ≠ "true" →
    v ≠ "false" →
    Refuses connectorNameInOffsets v (.notAllowed connectorNameInOffsets v)
  | logRedaction {v} :
    v ≠ "none" →
    v ≠ "partial" →
    v ≠ "full" →
    Refuses logRedaction v (.notAllowed logRedaction v)
  | partitions {v before piece after cause} :
    v.toList.splitOn ',' = before ++ piece :: after →
    (∀ earlier ∈ before, ∃ n ≤ 65535, Text.Padded earlier n) →
    Text.Misread maxPartition (Text.trim piece) cause →
    Refuses partitions v (.badNumeral partitions (String.ofList piece) cause)

variable {s : Setting} {v : String} {e refusal : ArgumentError}

/-- The settings whose values can be bad, in the order of their declaration. -/
def checked : List Setting :=
  [batchSizeMax, connectorNameInOffsets, logRedaction, partitions]

/-- The settings that every configuration needs, in the order of their declaration. -/
def required : List Setting :=
  [bucket, partitions]

/-- A batch size is refused for what is wrong with it. -/
lemma readBatchSize_eq_error_iff : readBatchSize v = .error e ↔ Refuses batchSizeMax v e := by
  unfold readBatchSize
  cases hr : Text.readPositive maxBatch v.toList with
  | ok n =>
    constructor
    · exact fun h => absurd h (by simp)
    · rintro ⟨hm⟩
      cases hr.symm.trans (Text.readPositive_eq_error_iff.2 hm)
  | error cause =>
    rw [Except.error.injEq]
    constructor
    · rintro rfl
      exact .batchSizeMax (Text.readPositive_eq_error_iff.1 hr)
    · rintro ⟨hm⟩
      obtain rfl := Except.error.inj (hr.symm.trans (Text.readPositive_eq_error_iff.2 hm))
      rfl

/-- A flag is refused for what is wrong with it. -/
lemma readFlag_eq_error_iff : readFlag v = .error e ↔ Refuses connectorNameInOffsets v e := by
  unfold readFlag
  split
  · rename_i ht
    constructor
    · exact fun h => absurd h (by simp)
    · rintro (_ | ⟨hne, -⟩)
      exact absurd ht hne
  · rename_i ht
    split
    · rename_i hf
      constructor
      · exact fun h => absurd h (by simp)
      · rintro (_ | ⟨-, hne⟩)
        exact absurd hf hne
    · rename_i hf
      rw [Except.error.injEq]
      constructor
      · rintro rfl
        exact .connectorNameInOffsets ht hf
      · rintro ⟨⟩
        rfl

/-- A value names a redaction level or is refused for not doing so. -/
lemma ofName?_eq_none_iff :
    RedactionLevel.ofName? v = none ↔ v ≠ "none" ∧ v ≠ "partial" ∧ v ≠ "full" := by
  rw [RedactionLevel.ofName?, List.find?_eq_none]
  simp [RedactionLevel.all, RedactionLevel.name, @eq_comm _ _ v]

/-- A level is refused for what is wrong with it. -/
lemma readLevel_eq_error_iff : readLevel v = .error e ↔ Refuses logRedaction v e := by
  unfold readLevel
  cases ho : RedactionLevel.ofName? v with
  | some level =>
    constructor
    · exact fun h => absurd h (by simp)
    · rintro (_ | _ | ⟨hn, hp, hf⟩)
      cases ho.symm.trans (ofName?_eq_none_iff.2 ⟨hn, hp, hf⟩)
  | none =>
    obtain ⟨hn, hp, hf⟩ := ofName?_eq_none_iff.1 ho
    rw [Except.error.injEq]
    constructor
    · rintro rfl
      exact .logRedaction hn hp hf
    · rintro ⟨⟩
      rfl

/-- A partition is refused for what is wrong with its numeral. -/
lemma readPartition_eq_error_iff {piece : List Char} :
    readPartition piece = .error e ↔
      ∃ cause, Text.Misread maxPartition (Text.trim piece) cause ∧
        e = .badNumeral partitions (String.ofList piece) cause := by
  simp only [← Text.readNumeral_eq_error_iff]
  unfold readPartition
  cases Text.readNumeral maxPartition (Text.trim piece) <;> simp [eq_comm]

/-- A partition is read if it is a numeral of 16 bits with blanks around it. -/
lemma exists_readPartition_iff {piece : List Char} :
    (∃ n, readPartition piece = .ok n) ↔ ∃ n ≤ 65535, Text.Padded piece n := by
  simp only [readPartition_eq_ok_iff]
  constructor
  · rintro ⟨n, hn⟩
    exact ⟨n.toNat, Nat.le_of_lt_succ n.toNat_lt, hn⟩
  · rintro ⟨n, hle, hn⟩
    refine ⟨UInt16.ofNat n, ?_⟩
    rwa [UInt16.toNat_ofNat_of_lt' (Nat.lt_succ_of_le hle)]

/-- Reading a list fails at its first bad piece. -/
lemma readPartitionPieces_eq_error_iff {pieces : List (List Char)} :
    readPartitionPieces pieces = .error e ↔ ∃ before piece after,
      pieces = before ++ piece :: after ∧
        (∀ earlier ∈ before, ∃ n, readPartition earlier = .ok n) ∧
        readPartition piece = .error e := by
  induction pieces with
  | nil => simp [readPartitionPieces]
  | cons piece rest ih =>
    rw [exists_first_cons_iff, ← ih]
    simp only [readPartitionPieces, bind_eq_error_iff, pure, Except.pure, reduceCtorEq, and_false,
      exists_false, or_false, exists_and_right]

/-- A list of partitions is refused for the first piece that is wrong. -/
lemma readPartitions_eq_error_iff : readPartitions v = .error e ↔ Refuses partitions v e := by
  simp only [readPartitions, pieces_eq, readPartitionPieces_eq_error_iff, exists_readPartition_iff,
    readPartition_eq_error_iff]
  constructor
  · rintro ⟨before, piece, after, hv, hb, cause, hm, rfl⟩
    exact .partitions hv hb hm
  · rintro (_ | _ | _ | ⟨hv, hb, hm⟩)
    exact ⟨_, _, _, hv, hb, _, hm, rfl⟩

/-- A batch size is read if it is allowed. -/
lemma exists_readBatchSize_iff : (∃ n, readBatchSize v = .ok n) ↔ batchSizeMax.Allows v := by
  simp only [readBatchSize_eq_ok_iff]
  constructor
  · rintro ⟨⟨n, hpos⟩, hn, hlt⟩
    exact ⟨n, hpos, hlt, hn⟩
  · rintro ⟨n, hpos, hlt, hn⟩
    exact ⟨⟨n, hpos⟩, hn, hlt⟩

/-- A flag is read if it is allowed. -/
lemma exists_readFlag_iff : (∃ b, readFlag v = .ok b) ↔ connectorNameInOffsets.Allows v := by
  simp [readFlag_eq_ok_iff, Allows, or_comm]

/-- A level is read if it is allowed. -/
lemma exists_readLevel_iff : (∃ level, readLevel v = .ok level) ↔ logRedaction.Allows v := by
  simp only [readLevel_eq_ok_iff]
  constructor
  · rintro ⟨level, rfl⟩
    cases level <;> simp [Allows, RedactionLevel.name]
  · rintro (rfl | rfl | rfl)
    · exact ⟨.none, rfl⟩
    · exact ⟨.part, rfl⟩
    · exact ⟨.full, rfl⟩

/-- A list of partitions is read if it is allowed. -/
lemma exists_readPartitions_iff : (∃ ns, readPartitions v = .ok ns) ↔ partitions.Allows v := by
  simp only [readPartitions_eq_ok_iff, exists_forall₂_iff, ← readPartition_eq_ok_iff,
    exists_readPartition_iff]
  rfl

end Setting

namespace Draft

variable {d draft : Draft} {v : Option String} {s : Setting} {p : Properties} {e : ArgumentError}

/-- An optional setting is refused if it is given and refused. -/
lemma mapM_eq_error_iff {α : Type} {read : String → Except ArgumentError α} :
    v.mapM read = .error e ↔ ∃ w, v = some w ∧ read w = .error e := by
  cases v with
  | none => simp [pure, Except.pure]
  | some w =>
    rw [Option.mapM_some]
    cases hr : read w <;> simp [hr]

/-- An optional setting is read unless it is given and refused. -/
lemma exists_mapM_iff {α : Type} {read : String → Except ArgumentError α} :
    (∃ x, v.mapM read = .ok x) ↔ ∀ w, v = some w → ∃ a, read w = .ok a := by
  simp only [mapM_eq_ok_iff]
  cases v with
  | none => simp
  | some w => simp

/-- An optional setting is there after it is read just if it was given. -/
lemma isNone_of_mapM {α : Type} {read : String → Except ArgumentError α} {x : Option α}
    (h : v.mapM read = .ok x) : x.isNone = v.isNone := by
  have hx := mapM_eq_ok_iff.1 h
  cases v with
  | none =>
    obtain rfl : x = none := hx
    rfl
  | some w =>
    obtain ⟨a, rfl, -⟩ := hx
    rfl

/-- A setting is not settled just if it refuses its value. -/
lemma settle_eq_error_iff : d.settle v s = .error e ↔ ∃ w, v = some w ∧ s.Refuses w e := by
  cases s with
  | name | bucket | topic | eventFilter | sourceHandler =>
    constructor
    · exact fun h => absurd h (by simp [settle])
    · rintro ⟨w, -, ⟨⟩⟩
  | batchSizeMax =>
    simp [settle, bind_eq_error_iff, mapM_eq_error_iff, Setting.readBatchSize_eq_error_iff, pure,
      Except.pure]
  | connectorNameInOffsets =>
    simp [settle, bind_eq_error_iff, mapM_eq_error_iff, Setting.readFlag_eq_error_iff, pure,
      Except.pure]
  | logRedaction =>
    simp [settle, bind_eq_error_iff, mapM_eq_error_iff, Setting.readLevel_eq_error_iff, pure,
      Except.pure]
  | partitions =>
    simp [settle, bind_eq_error_iff, mapM_eq_error_iff, Setting.readPartitions_eq_error_iff, pure,
      Except.pure]

/-- What follows a reading that cannot fail does not fail. -/
lemma exists_bind_pure_iff {α β : Type} {x : Except ArgumentError α} {f : α → β} :
    (∃ b, (x >>= fun a => pure (f a)) = .ok b) ↔ ∃ a, x = .ok a := by
  simp [bind_eq_ok_iff, pure, Except.pure]

/-- A setting is settled just if it allows its value. -/
lemma exists_settle_iff :
    (∃ draft, d.settle v s = .ok draft) ↔ ∀ w, v = some w → s.Allows w := by
  cases s with
  | name | bucket | topic | eventFilter | sourceHandler => simp [settle, Setting.Allows]
  | batchSizeMax =>
    simp only [settle, exists_bind_pure_iff, exists_mapM_iff, Setting.exists_readBatchSize_iff]
  | connectorNameInOffsets =>
    simp only [settle, exists_bind_pure_iff, exists_mapM_iff, Setting.exists_readFlag_iff]
  | logRedaction =>
    simp only [settle, exists_bind_pure_iff, exists_mapM_iff, Setting.exists_readLevel_iff]
  | partitions =>
    simp only [settle, exists_bind_pure_iff, exists_mapM_iff, Setting.exists_readPartitions_iff]

/-- Of the settings in a list the first that refuses its value ends the reading. -/
lemma foldlM_settle_eq_error_iff {settings : List Setting} :
    settings.foldlM (fun d s => d.settle (s.lookUp p) s) d = .error e ↔
      ∃ before s after v, settings = before ++ s :: after ∧
        (∀ t ∈ before, ∀ w, t.lookUp p = some w → t.Allows w) ∧ s.lookUp p = some v ∧
        s.Refuses v e := by
  induction settings generalizing d with
  | nil => simp [pure, Except.pure]
  | cons s rest ih =>
    simp only [exists_and_left] at ih ⊢
    rw [List.foldlM_cons, bind_eq_error_iff, exists_first_cons_iff, settle_eq_error_iff,
      ← exists_settle_iff (d := d)]
    simp only [ih, exists_and_right]

/-- Settings are settled one after the other if each that is given is allowed. -/
lemma exists_foldlM_settle_iff {settings : List Setting} :
    (∃ draft, settings.foldlM (fun d s => d.settle (s.lookUp p) s) d = .ok draft) ↔
      ∀ s ∈ settings, ∀ v, s.lookUp p = some v → s.Allows v := by
  induction settings generalizing d with
  | nil => simp [pure, Except.pure]
  | cons s rest ih =>
    simp only [List.foldlM_cons, bind_eq_ok_iff, List.forall_mem_cons]
    rw [← exists_settle_iff (d := d)]
    constructor
    · rintro ⟨draft, next, hn, hd⟩
      exact ⟨⟨next, hn⟩, ih.1 ⟨draft, hd⟩⟩
    · rintro ⟨⟨next, hn⟩, hrest⟩
      obtain ⟨draft, hd⟩ := ih.2 hrest
      exact ⟨draft, next, hn, hd⟩

/-- The first setting whose value is bad ends the reading of a command line. -/
lemma takeAll_eq_error_iff :
    empty.takeAll (givenSettings p) = .error e ↔
      ∃ before s after v, Setting.all = before ++ s :: after ∧
        (∀ t ∈ before, ∀ w, t.lookUp p = some w → t.Allows w) ∧ s.lookUp p = some v ∧
        s.Refuses v e := by
  rw [givenSettings, takeAll_eq_foldlM p (by decide) (by decide), foldlM_settle_eq_error_iff]

/-- All that is given is taken if each setting is allowed. -/
lemma exists_takeAll_iff :
    (∃ draft, empty.takeAll (givenSettings p) = .ok draft) ↔
      ∀ (s : Setting) v, s.lookUp p = some v → s.Allows v := by
  rw [givenSettings, takeAll_eq_foldlM p (by decide) (by decide), exists_foldlM_settle_iff]
  exact ⟨fun h s => h s s.mem_all, fun h s _ => h s⟩

/-- After all settings of a command line, those are lacking that the properties do not have. -/
lemma lacks_of_takeAll (h : empty.takeAll (givenSettings p) = .ok draft) (s : Setting) :
    draft.lacks s = (s.lookUp p).isNone := by
  rw [takeAll_givenSettings] at h
  obtain ⟨limit, hl, h⟩ := bind_eq_ok_iff.1 h
  obtain ⟨flag, hf, h⟩ := bind_eq_ok_iff.1 h
  obtain ⟨level, hr, h⟩ := bind_eq_ok_iff.1 h
  obtain ⟨partitions, hp, h⟩ := bind_eq_ok_iff.1 h
  obtain rfl := Except.ok.inj h
  cases s with
  | name | bucket | topic | eventFilter | sourceHandler => rfl
  | batchSizeMax => exact isNone_of_mapM hl
  | connectorNameInOffsets => exact isNone_of_mapM hf
  | logRedaction => exact isNone_of_mapM hr
  | partitions => exact isNone_of_mapM hp

/-- A draft is not complete just if a setting that every configuration needs is lacking, and then
all such are named. -/
lemma complete_eq_error_iff :
    d.complete = .error e ↔
      Setting.required.filter d.lacks ≠ [] ∧ e = .missing (Setting.required.filter d.lacks) := by
  obtain ⟨name, bucket, topic, filter, handler, limit, flag, level, partitions⟩ := d
  cases bucket <;> cases partitions <;>
    simp [complete, Setting.required, lacks, List.filter_cons, @eq_comm _ _ e]

/-- A draft is completed if it lacks nothing that is required. -/
lemma exists_complete_iff :
    (∃ c, d.complete = .ok c) ↔ Setting.required.filter d.lacks = [] := by
  cases hc : d.complete with
  | ok c =>
    simp only [Except.ok.injEq, exists_eq', true_iff]
    by_contra hne
    cases hc.symm.trans (complete_eq_error_iff.2 ⟨hne, rfl⟩)
  | error e => simp [(complete_eq_error_iff.1 hc).1]

end Draft

namespace Setting

variable {s : Setting} {v : String} {e refusal other : ArgumentError}

/-- A setting of an empty draft is refused for what is wrong with it. -/
lemma settle_some_eq_error_iff :
    Draft.empty.settle (some v) s = .error e ↔ s.Refuses v e := by
  simp [Draft.settle_eq_error_iff]

/-- A value is refused just if it is not allowed. -/
lemma not_allows_iff : ¬ s.Allows v ↔ ∃ e, s.Refuses v e := by
  have hok : (∃ draft, Draft.empty.settle (some v) s = .ok draft) ↔ s.Allows v := by
    simp [Draft.exists_settle_iff]
  simp only [← hok, ← settle_some_eq_error_iff]
  cases Draft.empty.settle (some v) s <;> simp

/-- There is only one reason to refuse a value. -/
lemma Refuses.unique (h : s.Refuses v refusal) (ho : s.Refuses v other) : refusal = other :=
  Except.error.inj
    ((settle_some_eq_error_iff.2 h).symm.trans (settle_some_eq_error_iff.2 ho))

/-- The error is about the setting, and its kind tells numerals from names. -/
lemma Refuses.kind_eq (h : s.Refuses v refusal) :
    s ∈ checked ∧ refusal.settings = [s] ∧
      refusal.kind = if s = .connectorNameInOffsets ∨ s = .logRedaction then "InvalidValue"
        else "ValueValidation" := by
  cases h <;> exact ⟨by decide, rfl, rfl⟩

end Setting

namespace FeedConfig

variable {p : Properties} {c : FeedConfig} {e : ArgumentError}

/-- The needed settings that the properties do not have, in the order of their declaration. -/
def missing (p : Properties) : List Setting :=
  Setting.required.filter fun s => (s.lookUp p).isNone

/-- What a draft lacks is what the properties do not say. -/
lemma filter_lacks_eq_missing {draft : Draft}
    (h : Draft.empty.takeAll (givenSettings p) = .ok draft) :
    Setting.required.filter draft.lacks = missing p := by
  rw [funext (Draft.lacks_of_takeAll h), missing]

/-- Properties are refused for the first setting with a wrong value, or else for all
those missing. -/
lemma readSettings_eq_error_iff :
    readSettings p = .error e ↔
      (∃ before s after v, Setting.all = before ++ s :: after ∧
        (∀ t ∈ before, ∀ w, t.lookUp p = some w → t.Allows w) ∧ s.lookUp p = some v ∧
        s.Refuses v e) ∨
      (∀ (s : Setting) v, s.lookUp p = some v → s.Allows v) ∧ missing p ≠ [] ∧
        e = .missing (missing p) := by
  rw [readSettings, settingsOf_eq, bind_eq_error_iff, Draft.takeAll_eq_error_iff,
    ← Draft.exists_takeAll_iff]
  apply or_congr_right
  constructor
  · rintro ⟨draft, hd, hc⟩
    rw [Draft.complete_eq_error_iff, filter_lacks_eq_missing hd] at hc
    exact ⟨⟨draft, hd⟩, hc⟩
  · rintro ⟨⟨draft, hd⟩, hc⟩
    rw [← filter_lacks_eq_missing hd, ← Draft.complete_eq_error_iff] at hc
    exact ⟨draft, hd, hc⟩

/-- The settings are read if all values are good and none that is needed is missing. -/
lemma exists_readSettings_iff :
    (∃ c, readSettings p = .ok c) ↔
      (∀ (s : Setting) v, s.lookUp p = some v → s.Allows v) ∧ missing p = [] := by
  simp only [readSettings, settingsOf_eq, bind_eq_ok_iff, ← Draft.exists_takeAll_iff]
  rw [exists_comm]
  constructor
  · rintro ⟨draft, c, hd, hc⟩
    exact ⟨⟨draft, hd⟩, filter_lacks_eq_missing hd ▸ Draft.exists_complete_iff.1 ⟨c, hc⟩⟩
  · rintro ⟨⟨draft, hd⟩, hm⟩
    obtain ⟨c, hc⟩ := Draft.exists_complete_iff.2 (filter_lacks_eq_missing hd ▸ hm)
    exact ⟨draft, c, hd, hc⟩

/-- The name of a configuration is the one that the properties give. -/
lemma name_of_readSettings (h : readSettings p = .ok c) :
    c.name = (Setting.name.lookUp p).getD "" := by
  obtain ⟨limit, flag, level, partitions, -, -, -, -, hc⟩ := readSettings_eq_ok_iff.1 h
  exact (Draft.complete_eq_ok_iff.1 hc).2.2.1

/-- Properties are no configuration because of a setting, or because the name is blank. -/
lemma ofProperties_eq_error_iff {e : ConfigError} :
    ofProperties p = .error e ↔
      (∃ refusal, readSettings p = .error refusal ∧ e = .invalid refusal) ∨
      ∃ c, readSettings p = .ok c ∧ (∀ x ∈ c.name.toList, Text.isBlank x) ∧ e = .blankName := by
  unfold ofProperties
  cases readSettings p with
  | error refusal => simp [@eq_comm _ _ e]
  | ok c =>
    simp only [← Text.trim_eq_nil_iff, List.isEmpty_iff]
    by_cases hc : Text.trim c.name.toList = [] <;> simp [hc, @eq_comm _ _ e]

/-- The name is found blank only where the settings are read. -/
lemma exists_blank_iff :
    (∃ c, readSettings p = .ok c ∧ ∀ x ∈ c.name.toList, Text.isBlank x) ↔
      (∀ (s : Setting) v, s.lookUp p = some v → s.Allows v) ∧ missing p = [] ∧
        ∀ v, Setting.name.lookUp p = some v → ∀ x ∈ v.toList, Text.isBlank x := by
  have hname : ∀ c, readSettings p = .ok c → ((∀ x ∈ c.name.toList, Text.isBlank x) ↔
      ∀ v, Setting.name.lookUp p = some v → ∀ x ∈ v.toList, Text.isBlank x) := by
    intro c hc
    rw [name_of_readSettings hc]
    cases Setting.name.lookUp p <;> simp
  rw [← and_assoc, ← exists_readSettings_iff]
  constructor
  · rintro ⟨c, hc, hb⟩
    exact ⟨⟨c, hc⟩, (hname c hc).1 hb⟩
  · rintro ⟨⟨c, hc⟩, hb⟩
    exact ⟨c, hc, (hname c hc).2 hb⟩

/-- Why properties are refused, whatever is wrong with them. If any value is bad, the error is that
of the first setting, in the order of their declaration, that refuses its value; else, if settings
are missing that every configuration needs, it names just these; else the name is blank. A value
that is not allowed is refused for one reason, which names the setting, and of a list the first bad
piece. -/
theorem precedence (p : Properties) :
    (∀ e, ofProperties p = .error e ↔
      (∃ before s after v refusal, Setting.all = before ++ s :: after ∧
        (∀ t ∈ before, ∀ w, t.lookUp p = some w → t.Allows w) ∧ s.lookUp p = some v ∧
        s.Refuses v refusal ∧ e = .invalid refusal) ∨
      (∀ (s : Setting) v, s.lookUp p = some v → s.Allows v) ∧
        (missing p ≠ [] ∧ e = .invalid (.missing (missing p)) ∨
        missing p = [] ∧ (∀ v, Setting.name.lookUp p = some v → ∀ x ∈ v.toList, Text.isBlank x) ∧
          e = .blankName)) ∧
    (∀ s v, ¬ Setting.Allows s v ↔ ∃ refusal, Setting.Refuses s v refusal) ∧
    (∀ s v refusal other, Setting.Refuses s v refusal → Setting.Refuses s v other →
      refusal = other) ∧
    Setting.checked.Sublist Setting.all ∧
    (∀ s v refusal, Setting.Refuses s v refusal → s ∈ Setting.checked ∧ refusal.settings = [s] ∧
      refusal.kind = if s = .connectorNameInOffsets ∨ s = .logRedaction then "InvalidValue"
        else "ValueValidation") ∧
    ∀ settings, (ArgumentError.missing settings).kind = "MissingRequiredArgument" := by
  refine ⟨fun e => ?_, fun _ _ => Setting.not_allows_iff, fun _ _ _ _ => Setting.Refuses.unique,
    by decide, fun _ _ _ => Setting.Refuses.kind_eq, fun _ => rfl⟩
  rw [ofProperties_eq_error_iff]
  constructor
  · rintro (⟨refusal, hr, rfl⟩ | ⟨c, hc, hb, rfl⟩)
    · obtain ⟨before, s, after, v, hs, hb, hv, hr⟩ | ⟨hg, hm, rfl⟩ :=
        readSettings_eq_error_iff.1 hr
      · exact .inl ⟨before, s, after, v, refusal, hs, hb, hv, hr, rfl⟩
      · exact .inr ⟨hg, .inl ⟨hm, rfl⟩⟩
    · obtain ⟨hg, hm, hn⟩ := exists_blank_iff.1 ⟨c, hc, hb⟩
      exact .inr ⟨hg, .inr ⟨hm, hn, rfl⟩⟩
  · rintro (⟨before, s, after, v, refusal, hs, hb, hv, hr, rfl⟩ | ⟨hg, ⟨hm, rfl⟩ | ⟨hm, hn, rfl⟩⟩)
    · exact .inl ⟨refusal,
        readSettings_eq_error_iff.2 (.inl ⟨before, s, after, v, hs, hb, hv, hr⟩), rfl⟩
    · exact .inl ⟨_, readSettings_eq_error_iff.2 (.inr ⟨hg, hm, rfl⟩), rfl⟩
    · obtain ⟨c, hc, hb⟩ := exists_blank_iff.2 ⟨hg, hm, hn⟩
      exact .inr ⟨c, hc, hb, rfl⟩

/-- The last setting is bad, one that is needed is missing and the name is blank: the first bad
piece of the list is what is reported. -/
theorem precedence_partitions :
    let p : Properties := [("couchbase.batch.size.max", "+07"),
      ("couchbase.partitions", "1, x,70000"), ("name", " ")]
    Setting.Refuses .partitions "1, x,70000" (.badNumeral .partitions " x" .badDigit) ∧
      ofProperties p = .error (.invalid (.badNumeral .partitions " x" .badDigit)) := by
  intro p
  have hr : Setting.Refuses .partitions "1, x,70000" (.badNumeral .partitions " x" .badDigit) :=
    Setting.readPartitions_eq_error_iff.1 (by rfl)
  have hb : Setting.batchSizeMax.Allows "+07" :=
    Setting.exists_readBatchSize_iff.1 ⟨⟨7, by decide⟩, by rfl⟩
  refine ⟨hr, ((precedence p).1 _).2
    (.inl ⟨Setting.all.dropLast, .partitions, [], _, _, rfl, ?_, rfl, hr, rfl⟩)⟩
  intro t ht w hw
  cases t with
  | name | bucket | topic | eventFilter | sourceHandler => trivial
  | batchSizeMax =>
    obtain rfl := Option.some.inj hw
    exact hb
  | connectorNameInOffsets | logRedaction => cases hw
  | partitions => exact absurd ht (by decide)

end FeedConfig

end ChangeFeed
