import ChangeFeed.Event
import ChangeFeed.Json.Basic

/-!
# Records

What a source handler makes of an event, and the record that the host publishes for it.
-/

namespace ChangeFeed

/-- How the octets of a key or a value are to be understood (`ValueSchema`). -/
inductive Schema where
  | bytes
  | string
  | json
deriving Repr, DecidableEq

/-- The name of a schema. -/
def Schema.name : Schema → String
  | bytes => "bytes"
  | string => "string"
  | json => "json"

/-- Octets together with how they are to be understood (`SchemaAndValue`). -/
structure Typed where
  schema : Schema
  value : Bytes
deriving Repr, DecidableEq

/-- What a source handler wants published (`OutputRecord`). Without a topic the default topic of the
feed is taken, and without a value the record is a tombstone. -/
structure OutputRecord where
  topic : Option String
  partition : Option Int
  key : Option Typed
  value : Option Typed
  timestamp : Option Int
deriving Repr, DecidableEq

/-- A record with where it came from, ready for the host (`SourceRecord`). -/
structure FeedRecord where
  sourcePartition : JsonMap
  sourceOffset : JsonMap
  topic : String
  partition : Option Int
  key : Option Typed
  value : Option Typed
  timestamp : Option Int

end ChangeFeed
