import WireSchemas.Message.Json
import WireSchemas.Message.Protobuf

/-!
# Sample kinds

The message kinds of a small shop, with a few odd ones: a record without fields, one without a
type name, one that shares its type with another kind, and one that JSON cannot hold.
-/

namespace WireSchemas.Sample

/-- A street address. -/
def address : Shape :=
  .field "street" 1 .one .string <| .field "zip" 2 .one .fixed32 .done

/-- A user has signed up. -/
def userRegistered : RecordKind where
  label := "UserRegistered"
  type := ⟨"Identity.Schema", "UserRegistered"⟩
  shape := .field "user_id" 1 .one .string <| .field "email" 2 .one .string .done

/-- A user is gone. -/
def userDeleted : RecordKind where
  label := "UserDeleted"
  type := ⟨"Identity.Schema", "UserDeleted"⟩
  shape := .field "user_id" 1 .one .string <| .field "deleted_at" 2 .one .int64 .done

/-- An order with a field of every type. -/
def orderPlaced : RecordKind where
  label := "OrderPlaced"
  type := ⟨"Sales.Orders", "OrderPlaced"⟩
  shape :=
    .field "order_id" 1 .one .string <|
    .field "quantity" 2 .one .int32 <|
    .field "note" 3 .atMostOne .string <|
    .field "tags" 4 .many .string <|
    .field "total_cents" 5 .one .uint64 <|
    .field "paid" 6 .one .bool <|
    .field "delta" 7 .one .sint64 <|
    .nested "address" 9 address <|
    .field "lines" 16 .many .int32 .done

/-- A record without fields, in the empty scope. -/
def ping : RecordKind where
  label := "Ping"
  type := ⟨"", "Ping"⟩
  shape := .done

/-- A record whose message type is missing. -/
def nameless : RecordKind where
  label := "Nameless"
  type := ⟨"Ghost", ""⟩
  shape := .field "value" 1 .one .string .done

/-- A record of another kind with the message type of `userRegistered`. -/
def impostor : RecordKind where
  label := "Impostor"
  type := ⟨"Identity.Schema", "UserRegistered"⟩
  shape := .field "code" 1 .one .int32 .done

/-- A record that is never written in JSON. -/
def fragile : RecordKind where
  label := "Fragile"
  type := ⟨"Test", "Fragile"⟩
  shape := .done

/-- A codec that only reads. -/
def readOnly (c : MessageCodec) (refusal : String) : MessageCodec :=
  { c with form := { c.form with write _ := .error refusal } }

/-- A vector of bytes. -/
def byteVector : RawKind :=
  ⟨"Vec", ⟨"std.vec", "Vec<u8>"⟩⟩

/-- A byte buffer of the application. -/
def rawBlob : RawKind :=
  ⟨"RawBlob", ⟨"App", "RawBlob"⟩⟩

/-- All sample kinds of records. -/
def records : List RecordKind :=
  [userRegistered, userDeleted, orderPlaced, ping, nameless, impostor, fragile]

/-- The codec of a sample kind of records in JSON. -/
def jsonOf (k : RecordKind) : MessageCodec :=
  if k = fragile then readOnly k.json "<json>" else k.json

/-- All sample kinds of buffers. -/
def buffers : List RawKind :=
  [.bytes, byteVector, rawBlob]

/-- The sample kind of a label. -/
def kind? (label : String) : Option Kind :=
  match records.find? fun k => k.label == label with
  | some k => some (.record k)
  | none => (buffers.find? fun k => k.label == label).map .raw

end WireSchemas.Sample
