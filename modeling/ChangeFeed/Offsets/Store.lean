import ChangeFeed.Offsets.Codec

/-!
# A store of offsets

Offsets by source partition, in the order in which the partitions were first committed. A later
commit of the same source partition replaces the earlier one.
-/

namespace ChangeFeed

/-- Committed source partitions and their offsets (`MemoryOffsetStore`). -/
structure OffsetStore where
  entries : List (JsonMap × JsonMap)

namespace OffsetStore

/-- A store of nothing. -/
def empty : OffsetStore := ⟨[]⟩

/-- Puts an offset into the entries, over that of the same source partition if there is one. -/
def put (partition offset : JsonMap) : List (JsonMap × JsonMap) → List (JsonMap × JsonMap)
  | [] => [(partition, offset)]
  | (p, o) :: rest =>
    if Json.sameMembers p partition then (p, offset) :: rest
    else (p, o) :: put partition offset rest

/-- Commits the offset of a source partition (`MemoryOffsetStore.commit_raw`). -/
def commitMaps (s : OffsetStore) (partition offset : JsonMap) : OffsetStore :=
  ⟨put partition offset s.entries⟩

/-- Commits the position of a partition (`MemoryOffsetStore.commit`). -/
def commit (s : OffsetStore) (c : Codec) (p : UInt16) (position : Position) : OffsetStore :=
  s.commitMaps (c.sourcePartition p) (Codec.sourceOffset position)

/-- Commits the position of a record, as the host does once the record was written
(`MemoryOffsetStore.commit_record`). -/
def commitRecord (s : OffsetStore) (r : FeedRecord) : OffsetStore :=
  s.commitMaps r.sourcePartition r.sourceOffset

/-- The offset of a source partition. -/
def find? (s : OffsetStore) (partition : JsonMap) : Option JsonMap :=
  (s.entries.find? fun e => Json.sameMembers e.1 partition).map Prod.snd

/-- Answers a look-up: every source partition asked for, with its offset if there is one
(`MemoryOffsetStore.offsets`). -/
def storage (s : OffsetStore) : Codec.Storage :=
  fun partitions => partitions.map fun p => (p, s.find? p)

end OffsetStore

end ChangeFeed
