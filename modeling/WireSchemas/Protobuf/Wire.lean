import WireSchemas.Text.Utf8

/-!
# The Protobuf wire format

A message is a row of fields, each a key with a tag and a wire type, then a payload.  Reading
splits the bytes into fields without knowing what the tags mean.  Groups, which no field of this
library uses, are checked and passed over; they may nest no deeper than a hundred levels.
-/

namespace WireSchemas.Protobuf

/-- The payload of a field. -/
inductive Payload where
  | varint (n : UInt64)
  | fixed64
  | bytes (data : Bytes)
  | group
  | fixed32 (n : UInt32)
deriving Repr, DecidableEq

/-- A field as it stands on the wire. -/
structure WireField where
  tag : Nat
  payload : Payload
deriving Repr, DecidableEq

/-! ### Writing -/

/-- A number in groups of seven bits, the low group first, a mark on all but the last. -/
def varintBytes (n : Nat) : Bytes :=
  if n < 128 then [UInt8.ofNat n] else UInt8.ofNat (n % 128 + 128) :: varintBytes (n / 128)
termination_by n

/-- A 32-bit number, the low byte first. -/
def fixed32Bytes (n : UInt32) : Bytes :=
  [n.toUInt8, (n >>> 8).toUInt8, (n >>> 16).toUInt8, (n >>> 24).toUInt8]

/-- The wire type of a payload. -/
def Payload.wireType : Payload → Nat
  | varint _ => 0
  | fixed64 => 1
  | bytes _ => 2
  | group => 3
  | fixed32 _ => 5

/-- The bytes of a field; only payloads that the library writes have any. -/
def WireField.encode (f : WireField) : Bytes :=
  varintBytes (8 * f.tag + f.payload.wireType) ++
    match f.payload with
    | .varint n => varintBytes n.toNat
    | .bytes data => varintBytes data.length ++ data
    | .fixed32 n => fixed32Bytes n
    | .fixed64 => []
    | .group => []

/-! ### Reading -/

/-- A number of at most 64 bits in at most ten groups, `shift` bits being read already. -/
def varintFrom? (shift : Nat) : Bytes → Option (Nat × Bytes)
  | [] => none
  | b :: rest =>
    if shift = 63 ∧ 1 < b then none
    else if b < 128 then some (b.toNat <<< shift, rest)
    else (varintFrom? (shift + 7) rest).map fun (n, after) =>
      ((b.toNat - 128) <<< shift + n, after)

/-- A varint, and what follows it. -/
def varint? (input : Bytes) : Option (Nat × Bytes) :=
  varintFrom? 0 input

/-- The key of a field: its tag, its wire type, and what follows.  Tags start at one, and a key
has at most 32 bits. -/
def key? (input : Bytes) : Option (Nat × Nat × Bytes) := do
  let (n, rest) ← varint? input
  if n < Nat.pow 2 32 ∧ 8 ≤ n then some (n / 8, n % 8, rest) else none

/-- A given number of bytes, and what follows them. -/
def take? (count : Nat) (input : Bytes) : Option (Bytes × Bytes) :=
  if count ≤ input.length then some (input.take count, input.drop count) else none

/-- A 32-bit number, and what follows it. -/
def fixed32? : Bytes → Option (UInt32 × Bytes)
  | b₀ :: b₁ :: b₂ :: b₃ :: rest =>
    some (b₀.toUInt32 ||| (b₁.toUInt32 <<< 8) ||| (b₂.toUInt32 <<< 16) ||| (b₃.toUInt32 <<< 24),
      rest)
  | _ => none

mutual

/-- The payload of a field, and what follows it. -/
def payload? : Nat → Nat → Nat → Nat → Bytes → Option (Payload × Bytes)
  | 0, _, _, _, _ => none
  | fuel + 1, depth, tag, wireType, input =>
    if depth = 0 then none
    else if wireType = 0 then
      (varint? input).map fun (n, rest) => (.varint (UInt64.ofNat n), rest)
    else if wireType = 1 then (take? 8 input).map fun (_, rest) => (.fixed64, rest)
    else if wireType = 2 then do
      let (count, body) ← varint? input
      let (data, rest) ← take? count body
      return (.bytes data, rest)
    else if wireType = 3 then (groupEnd? fuel (depth - 1) tag input).map fun rest => (.group, rest)
    else if wireType = 5 then (fixed32? input).map fun (n, rest) => (.fixed32 n, rest)
    else none

/-- What follows the end of a group, inside of which the input starts. -/
def groupEnd? : Nat → Nat → Nat → Bytes → Option Bytes
  | 0, _, _, _ => none
  | fuel + 1, depth, tag, input => do
    let (innerTag, wireType, body) ← key? input
    if wireType = 4 then
      if innerTag = tag then some body else none
    else
      let (_, rest) ← payload? fuel depth innerTag wireType body
      groupEnd? fuel depth tag rest

end

/-- The fields of the whole input, by fuel. -/
def fieldsFrom? (depth : Nat) : Nat → Bytes → Option (List WireField)
  | _, [] => some []
  | 0, _ :: _ => none
  | fuel + 1, b :: rest => do
    let (tag, wireType, body) ← key? (b :: rest)
    let (payload, after) ← payload? (2 * body.length + 1) depth tag wireType body
    return ⟨tag, payload⟩ :: (← fieldsFrom? depth fuel after)

/-- The fields of the whole input at a given allowance of levels. -/
def fields? (depth : Nat) (input : Bytes) : Option (List WireField) :=
  fieldsFrom? depth input.length input

/-- The levels that a message may nest. -/
def depthLimit : Nat := 100

end WireSchemas.Protobuf
