import WireSchemas.Failure
import WireSchemas.Message

/-!
# Forms of messages

For every format that a kind is registered for, the application has a form of its values: how they
are written and how they are read.  With its form a kind has a codec, which takes messages of no
other kind.
-/

namespace WireSchemas

/-- A writer and a reader of the values of a kind.  Each may fail, with a text of its own. -/
structure Form (kind : Kind) where
  write : kind.Value → Except String Bytes
  read : Bytes → Except String kind.Value

/-- A kind with a form of its values. -/
structure MessageCodec where
  kind : Kind
  form : Form kind

namespace MessageCodec

/-- The form of a message; a message of another kind is refused. -/
def encode (c : MessageCodec) (m : Message) : Except CodecFailure Bytes :=
  match m.value? c.kind with
  | some value => (c.form.write value).mapError .form
  | none => .error (.typeMismatch c.kind.type m.type)

/-- The message of a form. -/
def decode (c : MessageCodec) (data : Bytes) : Except CodecFailure Message :=
  ((c.form.read data).mapError .form).map (.of c.kind)

end MessageCodec

end WireSchemas
