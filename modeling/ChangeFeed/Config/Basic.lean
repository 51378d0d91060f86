import ChangeFeed.Dictionary
import ChangeFeed.Redaction
import ChangeFeed.Text.Numeral

/-!
# Configuration of a feed

A feed is configured by string properties. `Setting` lists the known ones in the order in which
they are declared, and `FeedConfig` holds the values that they were read to.
-/

namespace ChangeFeed

/-- The string properties of a feed, by name. -/
abbrev Properties := Dictionary String String

/-- The greatest partition number. -/
def maxPartition : Nat := UInt16.size - 1

/-- The greatest batch limit. -/
def maxBatch : Nat := UInt64.size - 1

/-- How many events a batch may take: at least one. -/
abbrev BatchLimit := { n : Nat // 0 < n }

/-- The known settings, in the order of their declaration. -/
inductive Setting where
  | name
  | bucket
  | topic
  | eventFilter
  | sourceHandler
  | batchSizeMax
  | connectorNameInOffsets
  | logRedaction
  | partitions
deriving Repr, DecidableEq

/-- The property of a long flag: the dashes become dots (`property_name`). -/
def propertyName (flag : String) : String :=
  String.ofList (flag.toList.map fun c => if c = '-' then '.' else c)

namespace Setting

/-- The long flag of a setting. -/
def flag : Setting → String
  | name => "name"
  | bucket => "couchbase-bucket"
  | topic => "couchbase-topic"
  | eventFilter => "couchbase-event-filter"
  | sourceHandler => "couchbase-source-handler"
  | batchSizeMax => "couchbase-batch-size-max"
  | connectorNameInOffsets => "couchbase-connector-name-in-offsets"
  | logRedaction => "couchbase-log-redaction"
  | partitions => "couchbase-partitions"

/-- The name that stands for the value of a setting. -/
def placeholder : Setting → String
  | name => "NAME"
  | bucket => "BUCKET"
  | topic => "TOPIC"
  | eventFilter => "EVENT_FILTER"
  | sourceHandler => "SOURCE_HANDLER"
  | batchSizeMax => "BATCH_SIZE_MAX"
  | connectorNameInOffsets => "CONNECTOR_NAME_IN_OFFSETS"
  | logRedaction => "LOG_REDACTION"
  | partitions => "PARTITIONS"

/-- A setting as error messages name it. -/
def argument (s : Setting) : String :=
  "--" ++ s.flag ++ " <" ++ s.placeholder ++ ">"

/-- The property that a setting is read from. -/
def property (s : Setting) : String :=
  propertyName s.flag

end Setting

/-- The configuration of a feed (`SourceTaskConfig`). -/
structure FeedConfig where
  name : String
  bucket : String
  topic : String
  eventFilter : Option String
  sourceHandler : String
  batchSizeMax : BatchLimit
  connectorNameInOffsets : Bool
  logRedaction : RedactionLevel
  partitions : List UInt16
deriving Repr, DecidableEq

end ChangeFeed
