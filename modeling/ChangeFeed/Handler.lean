import ChangeFeed.Json.Reader
import ChangeFeed.Json.Writer
import ChangeFeed.Record

/-!
# Filters and source handlers

A filter decides from the message alone whether an event is of interest; a source handler makes a
record of an event, or drops it. Both may fail. The built-in handlers publish the content of a
document as it is, or in an envelope together with its metadata.
-/

namespace ChangeFeed

/-- Decides which messages are of interest (`Filter`). -/
structure Filter where
  name : String
  passes : Message → Except String Bool

/-- Makes a record of an event of a feed with a given default topic, or drops it
(`SourceHandler`). -/
structure Handler where
  name : String
  handle : DocumentEvent → String → Except String (Option OutputRecord)

namespace Filter

/-- Passes every message (`AllPassFilter`). -/
def allPass : Filter := ⟨"all_pass", fun _ => .ok true⟩

/-- Passes mutations only (`IgnoreDeletesFilter`). -/
def ignoreDeletes : Filter := ⟨"ignore_deletes", fun m => .ok (!m.kind.isRemoval)⟩

end Filter

namespace Handler

/-- A record of the document id and a value, everything else being left to the host. -/
def keyed (d : DocumentEvent) (value : Option Typed) : OutputRecord :=
  { topic := none
    partition := none
    key := some ⟨.string, d.message.key⟩
    value
    timestamp := none }

/-- Publishes the content as it is, and a tombstone for a removal (`RawJsonSourceHandler`). -/
def rawJson : Handler :=
  { name := "raw_json"
    handle := fun d _ =>
      .ok (some (keyed d (if d.message.kind.isRemoval then none
        else some ⟨.bytes, d.message.content⟩))) }

/-- The content of a document as a JSON value: nothing for a removal, the value that the content
holds if it is JSON, and else its text. -/
def contentValue (m : Message) : Json :=
  if m.kind.isRemoval then .null
  else (Json.ofBytes? m.content).getD (.str (Utf8.decodeLossy m.content))

/-- The envelope of an event: its content and its metadata. -/
def envelope (d : DocumentEvent) : Json :=
  .obj (Dictionary.ofList [
    ("event", .str d.message.kind.name),
    ("bucket", .str d.bucket),
    ("partition", .int d.message.partition.toNat),
    ("vBucketUuid", .int d.epoch.toNat),
    ("bySeqno", .int d.message.seqno.toNat),
    ("revSeqno", .int d.message.revision.toNat),
    ("cas", .int d.message.cas.toNat),
    ("key", .str d.message.keyText),
    ("content", contentValue d.message)])

/-- Publishes the envelope (`RawJsonWithMetadataSourceHandler`). -/
def rawJsonWithMetadata : Handler :=
  { name := "raw_json_with_metadata"
    handle := fun d _ =>
      .ok (some (keyed d (some ⟨.json, Utf8.encode (envelope d).render⟩))) }

end Handler

end ChangeFeed
