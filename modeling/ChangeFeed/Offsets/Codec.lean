import ChangeFeed.Json.Outline
import ChangeFeed.Record
import ChangeFeed.Text.Numeral

/-!
# Source partitions and offsets

The host keeps the position of every partition for us, as untyped maps. A source partition is the
map of a bucket, a partition number written as a string, and a connector name where positions are
kept apart by connector; a source offset is the map of a sequence number and the epoch that it
belongs to, which older offsets lack.
-/

namespace ChangeFeed

/-- Where to resume streaming a partition (`PartitionPosition`). -/
structure Position where
  seqno : UInt64
  epoch : Option UInt64
deriving Repr, DecidableEq

/-- The position of an event (`PartitionPosition.of`). -/
def Position.of (d : DocumentEvent) : Position :=
  ⟨d.message.seqno, some d.epoch⟩

/-- Positions by partition number. -/
abbrev Positions := Dictionary UInt16 Position

/-- Why a map cannot be decoded. -/
inductive MapError where
  | missing (field : String)
  | wrongType (found : Json) (expected : String)
  | negative (found : Int)

namespace MapError

/-- A value as error messages name it. -/
def describe : Json → String
  | .null => "null"
  | .bool true => "boolean `true`"
  | .bool false => "boolean `false`"
  | .int n => "integer `" ++ String.ofList (Json.writeInt n) ++ "`"
  | .float x => "floating point `" ++ String.ofList (Json.writeFloat x) ++ "`"
  | .str s => "string " ++ Text.quoted s
  | .arr _ => "sequence"
  | .obj _ => "map"

/-- The wording of each cause. -/
def message : MapError → String
  | missing field => "missing field `" ++ field ++ "`"
  | wrongType found expected => "invalid type: " ++ describe found ++ ", expected " ++ expected
  | negative n => "invalid value: " ++ describe (.int n) ++ ", expected u64"

end MapError

/-- Why saved positions cannot be read (`OffsetError`). -/
inductive OffsetError where
  | malformedPartition (map : JsonMap) (cause : MapError)
  | invalidNumber (text : String)
  | malformedOffset (map : JsonMap) (cause : MapError)

/-- The wording of each cause. -/
def OffsetError.message : OffsetError → String
  | malformedPartition map cause =>
    "malformed source partition " ++ Json.outlineMap map ++ ": " ++ cause.message
  | invalidNumber text =>
    "source partition number " ++ Text.quoted text ++ " is not a valid partition"
  | malformedOffset map cause =>
    "malformed source offset " ++ Json.outlineMap map ++ ": " ++ cause.message

/-- Encodes positions of one bucket, kept apart by connector if a connector is named
(`OffsetCodec`). -/
structure Codec where
  bucket : String
  connector : Option String
deriving Repr, DecidableEq

/-- The text of a partition number. -/
def partitionText (p : UInt16) : String :=
  String.ofList (Nat.toDigits 10 p.toNat)

namespace Codec

/-- The source partition of a partition number (`OffsetCodec.source_partition`). -/
def sourcePartition (c : Codec) (p : UInt16) : JsonMap :=
  let connector :=
    match c.connector with
    | none => []
    | some name => [("connector", Json.str name)]
  ("bucket", .str c.bucket) :: connector ++ [("partition", .str (partitionText p))]

/-- The source partitions of a list of partition numbers, in order
(`OffsetCodec.source_partitions`). -/
def sourcePartitions (c : Codec) (ps : List UInt16) : List JsonMap :=
  ps.map c.sourcePartition

/-- The source offset of a position (`OffsetCodec.source_offset`). -/
def sourceOffset (p : Position) : JsonMap :=
  let epoch :=
    match p.epoch with
    | none => []
    | some epoch => [("vbuuid", Json.int epoch.toNat)]
  ("bySeqno", .int p.seqno.toNat) :: epoch

/-- The partition number of a source partition (`OffsetCodec.decode_partition`). Members other than
the number do not matter. -/
def decodePartition (map : JsonMap) : Except OffsetError UInt16 :=
  match Dictionary.find? "partition" map with
  | none => .error (.malformedPartition map (.missing "partition"))
  | some (.str s) =>
    match Text.readNumeral (UInt16.size - 1) s.toList with
    | .ok n => .ok (UInt16.ofNat n)
    | .error _ => .error (.invalidNumber s)
  | some v => .error (.malformedPartition map (.wrongType v "a string"))

/-- The 64-bit number that a value is. -/
def decodeNumber : Json → Except MapError UInt64
  | .int n =>
    if n < 0 then .error (.negative n)
    else if n < UInt64.size then .ok (UInt64.ofNat n.toNat)
    else .error (.wrongType (.int n) "u64")
  | v => .error (.wrongType v "u64")

/-- The epoch of a source offset, which may be absent or null. -/
def decodeEpoch : Option Json → Except MapError (Option UInt64)
  | none => .ok none
  | some .null => .ok none
  | some v => (decodeNumber v).map some

/-- The members of a source offset. They are looked at in the order of their keys, so that a bad
sequence number is reported before a bad epoch, and a bad epoch before a missing sequence number. -/
def decodeMembers (map : JsonMap) : Except MapError Position :=
  match Dictionary.find? "bySeqno" map with
  | some v => do
    let seqno ← decodeNumber v
    let epoch ← decodeEpoch (Dictionary.find? "vbuuid" map)
    return ⟨seqno, epoch⟩
  | none => do
    let _ ← decodeEpoch (Dictionary.find? "vbuuid" map)
    .error (.missing "bySeqno")

/-- The position of a source offset (`OffsetCodec.decode_offset`). -/
def decodeOffset (map : JsonMap) : Except OffsetError Position :=
  match decodeMembers map with
  | .ok p => .ok p
  | .error cause => .error (.malformedOffset map cause)

/-- What a look-up of source partitions answers: each with its offset, if there is one. -/
abbrev Lookup := List (JsonMap × Option JsonMap)

/-- Adds the positions of a look-up to those known. Entries without an offset do not matter. -/
def decodeInto (known : Positions) : Lookup → Except OffsetError Positions
  | [] => .ok known
  | (_, none) :: rest => decodeInto known rest
  | (map, some offset) :: rest => do
    let p ← decodePartition map
    let position ← decodeOffset offset
    decodeInto (Dictionary.insert p position known) rest

/-- The positions of a look-up (`OffsetCodec.decode_offsets`). -/
def decodeOffsets (lookup : Lookup) : Except OffsetError Positions :=
  decodeInto [] lookup

/-- Answers a look-up of source partitions, as far as it knows them
(`OffsetStorageReader.offsets`). -/
abbrev Storage := List JsonMap → Lookup

/-- The saved positions of as many partitions as the storage knows
(`OffsetCodec.read_positions`). -/
def readPositions (c : Codec) (storage : Storage) (ps : List UInt16) :
    Except OffsetError Positions :=
  decodeOffsets (storage (c.sourcePartitions ps))

end Codec

end ChangeFeed
