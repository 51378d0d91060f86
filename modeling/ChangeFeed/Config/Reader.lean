import ChangeFeed.Config.CommandLine
import ChangeFeed.Config.Error
import ChangeFeed.Text.Blank

/-!
# Reading a configuration

Values are checked in the order of the command line, which is that of the settings' declaration, and
the first bad one is reported whatever else is wrong. Then the settings that every configuration
needs are looked for, all of those missing being reported at once, and last of all the name has to
hold more than blanks. Properties that belong to no setting are ignored.
-/

namespace ChangeFeed

namespace Setting

/-- The pieces of a list value, which stand between commas. -/
def pieces : List Char → List (List Char)
  | [] => [[]]
  | c :: rest =>
    if c = ',' then [] :: pieces rest
    else
      match pieces rest with
      | [] => [[c]]
      | p :: ps => (c :: p) :: ps

/-- The partition number of one piece, around which blanks are allowed (`parse_partition`). -/
def readPartition (piece : List Char) : Except ArgumentError UInt16 :=
  match Text.readNumeral maxPartition (Text.trim piece) with
  | .ok n => .ok (UInt16.ofNat n)
  | .error cause => .error (.badNumeral partitions (String.ofList piece) cause)

/-- The partition numbers of a list value, in order, up to the first bad piece. -/
def readPartitionPieces : List (List Char) → Except ArgumentError (List UInt16)
  | [] => .ok []
  | p :: ps => do
    let n ← readPartition p
    let ns ← readPartitionPieces ps
    return n :: ns

/-- The partition numbers of a list value. -/
def readPartitions (value : String) : Except ArgumentError (List UInt16) :=
  readPartitionPieces (pieces value.toList)

/-- The batch limit that a value stands for. -/
def readBatchSize (value : String) : Except ArgumentError BatchLimit :=
  match Text.readPositive maxBatch value.toList with
  | .ok n => .ok n
  | .error cause => .error (.badNumeral batchSizeMax value cause)

/-- The truth value that a value names. -/
def readFlag (value : String) : Except ArgumentError Bool :=
  if value = "true" then .ok true
  else if value = "false" then .ok false
  else .error (.notAllowed connectorNameInOffsets value)

/-- The redaction level that a value names. -/
def readLevel (value : String) : Except ArgumentError RedactionLevel :=
  match RedactionLevel.ofName? value with
  | some level => .ok level
  | none => .error (.notAllowed logRedaction value)

end Setting

/-- What has been read of a configuration so far. -/
structure Draft where
  name : Option String
  bucket : Option String
  topic : Option String
  eventFilter : Option String
  sourceHandler : Option String
  batchSizeMax : Option BatchLimit
  connectorNameInOffsets : Option Bool
  logRedaction : Option RedactionLevel
  partitions : Option (List UInt16)
deriving Repr, DecidableEq

namespace Draft

/-- Nothing was read yet. -/
def empty : Draft := ⟨none, none, none, none, none, none, none, none, none⟩

/-- Reads the value of one setting. The partitions of a second list follow those of the first. -/
def take (d : Draft) : Setting → String → Except ArgumentError Draft
  | .name, value => .ok { d with name := some value }
  | .bucket, value => .ok { d with bucket := some value }
  | .topic, value => .ok { d with topic := some value }
  | .eventFilter, value => .ok { d with eventFilter := some value }
  | .sourceHandler, value => .ok { d with sourceHandler := some value }
  | .batchSizeMax, value =>
    (Setting.readBatchSize value).map fun n => { d with batchSizeMax := some n }
  | .connectorNameInOffsets, value =>
    (Setting.readFlag value).map fun b => { d with connectorNameInOffsets := some b }
  | .logRedaction, value =>
    (Setting.readLevel value).map fun level => { d with logRedaction := some level }
  | .partitions, value =>
    (Setting.readPartitions value).map fun ps =>
      { d with partitions := some (d.partitions.getD [] ++ ps) }

/-- Reads the values of settings in order, up to the first bad one. -/
def takeAll (d : Draft) : List (Setting × String) → Except ArgumentError Draft
  | [] => .ok d
  | (s, value) :: rest => do
    let next ← d.take s value
    next.takeAll rest

/-- The configuration of a draft in which nothing is missing. -/
def complete (d : Draft) : Except ArgumentError FeedConfig :=
  match d.bucket, d.partitions with
  | none, none => .error (.missing [.bucket, .partitions])
  | none, some _ => .error (.missing [.bucket])
  | some _, none => .error (.missing [.partitions])
  | some bucket, some partitions =>
    .ok {
      name := d.name.getD ""
      bucket
      topic := d.topic.getD "couchbase"
      eventFilter := d.eventFilter
      sourceHandler := d.sourceHandler.getD "raw_json"
      batchSizeMax := d.batchSizeMax.getD ⟨2000, by decide⟩
      connectorNameInOffsets := d.connectorNameInOffsets.getD false
      logRedaction := d.logRedaction.getD .none
      partitions }

end Draft

namespace FeedConfig

/-- The values of the settings as the command line of the properties hands them on. -/
def settingsOf (properties : Properties) : List (Setting × String) :=
  (readArguments (commandLine properties)).get (by rw [readArguments_commandLine]; rfl)

/-- The configuration that the properties give, its name not yet checked. -/
def readSettings (properties : Properties) : Except ArgumentError FeedConfig := do
  let draft ← Draft.empty.takeAll (settingsOf properties)
  draft.complete

/-- The configuration that the properties give (`SourceTaskConfig.from_properties`). -/
def ofProperties (properties : Properties) : Except ConfigError FeedConfig :=
  match readSettings properties with
  | .error e => .error (.invalid e)
  | .ok config =>
    if (Text.trim config.name.toList).isEmpty then .error .blankName else .ok config

end FeedConfig

end ChangeFeed
