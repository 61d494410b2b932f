import WireSchemas.MessageType
import WireSchemas.Message.Shape
import WireSchemas.Text.Utf8

/-!
# Messages

A message is a value of a kind that the application declares, a byte buffer or a record.  Several
kinds may share one message type; they are still different kinds, and a value of one is no value of
another.
-/

namespace WireSchemas

/-- A kind of byte buffers. -/
structure RawKind where
  /-- The name of the kind in the application. -/
  label : String
  type : MessageType
deriving Repr, DecidableEq

/-- A kind of records. -/
structure RecordKind where
  /-- The name of the kind in the application. -/
  label : String
  type : MessageType
  shape : Shape
deriving Repr, DecidableEq

/-- A kind of messages. -/
inductive Kind where
  | raw (kind : RawKind)
  | record (kind : RecordKind)
deriving Repr, DecidableEq

/-- A value of some kind. -/
inductive Message where
  | raw (kind : RawKind) (bytes : Bytes)
  | record (kind : RecordKind) (content : kind.shape.Record)

/-- The built-in kind of byte buffers. -/
def RawKind.bytes : RawKind :=
  ⟨"Bytes", ⟨"bytes", "Bytes"⟩⟩

namespace Kind

/-- The message type of a kind. -/
def type : Kind → MessageType
  | raw k => k.type
  | record k => k.type

/-- The values of a kind. -/
abbrev Value : Kind → Type
  | raw _ => Bytes
  | record k => k.shape.Record

/-- The value of a kind with nothing in it. -/
def default : (k : Kind) → k.Value
  | raw _ => []
  | record k => k.shape.default

end Kind

namespace Message

/-- A value of a kind as a message. -/
def of : (k : Kind) → k.Value → Message
  | .raw k, bytes => .raw k bytes
  | .record k, content => .record k content

/-- The kind of a message. -/
def kind : Message → Kind
  | raw k _ => .raw k
  | record k _ => .record k

/-- The value that a message is. -/
def value : (m : Message) → m.kind.Value
  | raw _ bytes => bytes
  | record _ content => content

/-- The value that a message is, if it is of a given kind. -/
def value? (k : Kind) (m : Message) : Option k.Value :=
  if h : m.kind = k then some (h ▸ m.value) else none

/-- The message type of a message. -/
def type (m : Message) : MessageType :=
  m.kind.type

/-- The bytes of a buffer. -/
def rawBytes? : Message → Option Bytes
  | raw _ bytes => some bytes
  | record _ _ => none

/-- A message of the built-in kind of byte buffers. -/
def ofBytes (bytes : Bytes) : Message :=
  .raw .bytes bytes

end Message

end WireSchemas
