import ChangeFeed.Config.Basic

/-!
# Command lines

The reader of the settings is given properties as a command line: for each known property that is
there, one argument made of two dashes, the long flag of the setting, an equals sign and the value.
An argument is split at its first equals sign and belongs to the setting whose flag stands before
it, so that a value may hold anything; `readArguments_commandLine` says that every argument comes
out as it was put in.
-/

namespace ChangeFeed

namespace Setting

/-- The settings, in the order of their declaration. -/
def all : List Setting :=
  [name, bucket, topic, eventFilter, sourceHandler, batchSizeMax, connectorNameInOffsets,
    logRedaction, partitions]

/-- The setting of a long flag. -/
def ofFlag? (flag : List Char) : Option Setting :=
  all.find? fun s => s.flag.toList = flag

/-- Whether the values of a setting add up if it is given more than one. -/
def isList : Setting → Bool
  | partitions => true
  | _ => false

/-- The value of a setting in the properties. -/
def lookUp (s : Setting) (properties : Properties) : Option String :=
  Dictionary.find? s.property properties

/-- The argument that gives a setting a value. -/
def assign (s : Setting) (value : String) : String :=
  "--" ++ s.flag ++ "=" ++ value

end Setting

/-- The arguments for properties, in the order of the settings' declaration
(`properties_to_args`). -/
def commandLine (properties : Properties) : List String :=
  Setting.all.filterMap fun s => (s.lookUp properties).map s.assign

/-- The known properties and their settings, in the order of the settings' declaration. -/
def givenSettings (properties : Properties) : List (Setting × String) :=
  Setting.all.filterMap fun s => (s.lookUp properties).map (s, ·)

/-- The setting that an argument is about and the value that it gives it. -/
def readArgument (argument : String) : Option (Setting × String) :=
  match argument.toList with
  | '-' :: '-' :: rest =>
    match Setting.ofFlag? (rest.takeWhile (· ≠ '=')), rest.dropWhile (· ≠ '=') with
    | some s, _ :: value => some (s, String.ofList value)
    | _, _ => none
  | _ => none

/-- The settings that arguments are about and the values that they give them, in order. Every
argument must be about a setting, and only a list may be given twice. -/
def readArguments : List String → Option (List (Setting × String))
  | [] => some []
  | argument :: rest => do
    let (s, value) ← readArgument argument
    let given ← readArguments rest
    if s ∈ given.map Prod.fst ∧ ¬ s.isList then none else some ((s, value) :: given)

/-- The flag of a setting stands for that setting. -/
theorem Setting.ofFlag?_flag (s : Setting) : ofFlag? s.flag.toList = some s := by
  cases s <;> decide

/-- No flag has an equals sign in it. -/
theorem Setting.ne_of_mem_flag {s : Setting} {c : Char} (h : c ∈ s.flag.toList) : c ≠ '=' := by
  rintro rfl
  revert h
  cases s <;> decide

/-- An argument is read as the setting and the value that it was made of, whatever the value. -/
theorem readArgument_assign (s : Setting) (value : String) :
    readArgument (s.assign value) = some (s, value) := by
  have hl : (s.assign value).toList = '-' :: '-' :: (s.flag.toList ++ '=' :: value.toList) := by
    simp [Setting.assign]
  have hf : ∀ c ∈ s.flag.toList, decide (c ≠ '=') = true := fun c hc =>
    decide_eq_true (Setting.ne_of_mem_flag hc)
  rw [readArgument, hl]
  simp only
  rw [List.takeWhile_append_of_pos hf, List.dropWhile_append_of_pos hf]
  simp [s.ofFlag?_flag]

/-- A command line is read as the known properties that it was made of. -/
theorem readArguments_commandLine (properties : Properties) :
    readArguments (commandLine properties) = some (givenSettings properties) := by
  -- the flags are pairwise different, so no argument is refused for being a second one
  have h : ∀ l : List Setting, l.Nodup →
      readArguments (l.filterMap fun s => (s.lookUp properties).map s.assign) =
        some (l.filterMap fun s => (s.lookUp properties).map (s, ·)) := by
    intro l hl
    induction l with
    | nil => rfl
    | cons s rest ih =>
      obtain ⟨hs, hrest⟩ := List.nodup_cons.1 hl
      have hn : s ∉ (rest.filterMap fun s => (s.lookUp properties).map (s, ·)).map Prod.fst := by
        simp only [List.mem_map, List.mem_filterMap, Option.map_eq_some_iff]
        rintro ⟨-, ⟨t, ht, v, -, rfl⟩, rfl⟩
        exact hs ht
      cases hv : s.lookUp properties with
      | none => simpa [hv] using ih hrest
      | some value =>
        rw [List.filterMap_cons_some (by rw [hv]; rfl), List.filterMap_cons_some (by rw [hv]; rfl),
          readArguments, readArgument_assign, ih hrest]
        simp only [Option.bind_eq_bind, Option.bind_some]
        rw [if_neg fun h => hn h.1]
  exact h Setting.all (by decide)

end ChangeFeed
