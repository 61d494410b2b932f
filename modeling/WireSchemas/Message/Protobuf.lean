import WireSchemas.Message.Form
import WireSchemas.Protobuf.Wire

/-!
# Records in Protobuf

The Protobuf form that kinds of records commonly have.  Fields are written in order of their tags.
A single value is left out when it is the default, an optional one when it is absent; repeated
numbers are packed into one field, repeated texts are not.  When reading, the last of several single
values counts, nested records merge, repeated values append, and fields with unknown tags are passed
over.
-/

namespace WireSchemas

namespace Scalar

open Protobuf

/-- Zigzag numbering: 0, -1, 1, -2, … become 0, 1, 2, 3, … -/
def zigzag (n : Int64) : UInt64 :=
  let i := n.toInt
  UInt64.ofNat (if 0 ≤ i then 2 * i.toNat else 2 * i.natAbs - 1)

/-- The number with a given zigzag number. -/
def unzigzag (n : UInt64) : Int64 :=
  let k := n.toNat
  Int64.ofInt (if k % 2 = 0 then (k / 2 : Nat) else -((k / 2 : Nat) + 1 : Int))

/-- The payload of a value. -/
def payload : (s : Scalar) → s.Value → Payload
  | string, v => .bytes (Text.Utf8.encode v)
  | bool, v => .varint (if v then 1 else 0)
  | int32, v => .varint v.toInt64.toUInt64
  | int64, v => .varint v.toUInt64
  | uint64, v => .varint v
  | sint64, v => .varint (zigzag v)
  | fixed32, v => .fixed32 v

/-- The value of a payload; numbers keep their low bits. -/
def ofPayload? : (s : Scalar) → Payload → Option s.Value
  | string, .bytes data => Text.Utf8.decode? data
  | bool, .varint n => some (n != 0)
  | int32, .varint n => some n.toUInt32.toInt32
  | int64, .varint n => some n.toInt64
  | uint64, .varint n => some n
  | sint64, .varint n => some (unzigzag n)
  | fixed32, .fixed32 n => some n
  | _, _ => none

/-- Whether values may share one field. -/
def isPackable : Scalar → Bool
  | string => false
  | _ => true

/-- The bytes of a value among packed ones. -/
def packedBytes (s : Scalar) (v : s.Value) : Bytes :=
  match s.payload v with
  | .varint n => varintBytes n.toNat
  | .fixed32 n => fixed32Bytes n
  | _ => []

/-- The first of packed values, and what follows it. -/
def unpackOne? (s : Scalar) (input : Bytes) : Option (s.Value × Bytes) :=
  match s with
  | string => none
  | fixed32 => fixed32? input
  | s => do
    let (n, rest) ← varint? input
    return (← s.ofPayload? (.varint (UInt64.ofNat n)), rest)

/-- Packed values, by fuel. -/
def unpackFrom? (s : Scalar) : Nat → Bytes → Option (List s.Value)
  | _, [] => some []
  | 0, _ :: _ => none
  | fuel + 1, b :: rest => do
    let (v, after) ← s.unpackOne? (b :: rest)
    return v :: (← s.unpackFrom? fuel after)

/-- Packed values. -/
def unpack? (s : Scalar) (data : Bytes) : Option (List s.Value) :=
  s.unpackFrom? data.length data

end Scalar

namespace Cardinality

open Protobuf

/-- The fields that write the content of a field. -/
def wireFields (tag : Nat) (s : Scalar) : (c : Cardinality) → c.Content s.Value → List WireField
  | one, v => if v = s.default then [] else [⟨tag, s.payload v⟩]
  | atMostOne, none => []
  | atMostOne, some v => [⟨tag, s.payload v⟩]
  | many, vs =>
    if vs.isEmpty then []
    else if s.isPackable then [⟨tag, .bytes (vs.flatMap s.packedBytes)⟩]
    else vs.map fun v => ⟨tag, s.payload v⟩

/-- The content of a field after one more payload. -/
def absorb? (s : Scalar) (p : Payload) :
    (c : Cardinality) → c.Content s.Value → Option (c.Content s.Value)
  | one, _ => s.ofPayload? p
  | atMostOne, _ => (s.ofPayload? p).map some
  | many, vs =>
    match p with
    | .bytes data =>
      if s.isPackable then (s.unpack? data).map (vs ++ ·)
      else (s.ofPayload? p).map fun v => vs ++ [v]
    | _ => (s.ofPayload? p).map fun v => vs ++ [v]

end Cardinality

namespace Shape

open Protobuf

/-- The fields that write a record. -/
def wireFields : (s : Shape) → s.Record → List WireField
  | done, _ => []
  | field _ tag c scalar rest, (content, others) =>
    c.wireFields tag scalar content ++ rest.wireFields others
  | nested _ tag inner rest, (content, others) =>
    (match content with
      | none => []
      | some r => [⟨tag, .bytes ((inner.wireFields r).flatMap WireField.encode)⟩])
      ++ rest.wireFields others

/-- A record after one more field, at a given allowance of levels. -/
def absorb? : (s : Shape) → Nat → WireField → s.Record → Option s.Record
  | done, _, _, r => some r
  | field _ tag c scalar rest, depth, f, (content, others) =>
    if f.tag = tag then (c.absorb? scalar f.payload content).map (·, others)
    else (rest.absorb? depth f others).map (content, ·)
  | nested _ tag inner rest, depth, f, (content, others) =>
    if f.tag = tag then
      match f.payload with
      | .bytes data =>
        if depth = 0 then none
        else do
          let fields ← fields? (depth - 1) data
          let start := content.getD inner.default
          let r ← fields.foldlM (fun r f => inner.absorb? (depth - 1) f r) start
          return (some r, others)
      | _ => none
    else (rest.absorb? depth f others).map (content, ·)

end Shape

namespace RecordKind

/-- The Protobuf form of a record. -/
def encodeProtobuf (k : RecordKind) (content : k.shape.Record) : Bytes :=
  (k.shape.wireFields content).flatMap Protobuf.WireField.encode

/-- The record of a Protobuf form. -/
def decodeProtobuf (k : RecordKind) (data : Bytes) : Option k.shape.Record := do
  let fields ← Protobuf.fields? Protobuf.depthLimit data
  fields.foldlM (fun r f => k.shape.absorb? Protobuf.depthLimit f r) k.shape.default

/-- The codec of a kind of records in Protobuf. -/
def protobuf (k : RecordKind) : MessageCodec where
  kind := .record k
  form := {
    write content := .ok (k.encodeProtobuf content)
    read data := (k.decodeProtobuf data).elim (.error "<protobuf>") .ok }

end RecordKind

end WireSchemas
