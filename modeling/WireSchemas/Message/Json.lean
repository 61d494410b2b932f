import WireSchemas.Json.Reader
import WireSchemas.Json.Writer
import WireSchemas.Message.Form

/-!
# Messages in JSON

The JSON forms that kinds commonly have.  A record is written as an object of its fields in order,
with `null` for absent values.  It is read from such an object, where fields with at most one value
may be left out, or from the array of all its fields in order.  A buffer is an array of its bytes.
-/

namespace WireSchemas

/-- The JSON text of a value. -/
def Scalar.jsonText : (s : Scalar) → s.Value → List Char
  | string, v => Json.quoted v
  | bool, v => Json.boolText v
  | int32, v => (Text.integerText v.toInt).toList
  | int64, v => (Text.integerText v.toInt).toList
  | uint64, v => (Text.integerText v.toNat).toList
  | sint64, v => (Text.integerText v.toInt).toList
  | fixed32, v => (Text.integerText v.toNat).toList

/-- The value that JSON holds for a scalar type; numbers must be in range. -/
def Scalar.ofJson? : (s : Scalar) → Json → Option s.Value
  | string, j => j.text?
  | bool, j => j.bool?
  | int32, j => (j.integer? ⟨true, 32⟩).map Int32.ofInt
  | int64, j => (j.integer? ⟨true, 64⟩).map Int64.ofInt
  | uint64, j => (j.integer? ⟨false, 64⟩).map fun n => UInt64.ofNat n.toNat
  | sint64, j => (j.integer? ⟨true, 64⟩).map Int64.ofInt
  | fixed32, j => (j.integer? ⟨false, 32⟩).map fun n => UInt32.ofNat n.toNat

namespace Cardinality

/-- The JSON text of the content of a field. -/
def jsonText {α : Type} (write : α → List Char) : (c : Cardinality) → c.Content α → List Char
  | one, a => write a
  | atMostOne, none => "null".toList
  | atMostOne, some a => write a
  | many, as => Json.arrayText (as.map write)

/-- The content that JSON holds for a field. -/
def ofJson? {α : Type} (read : Json → Option α) : (c : Cardinality) → Json → Option (c.Content α)
  | one, j => read j
  | atMostOne, j => j.nullable? read
  | many, j => j.list? read

/-- The content of a field that is not there. -/
def ofAbsent? {α : Type} (positional : Bool) : (c : Cardinality) → Option (c.Content α)
  | one => none
  | atMostOne => if positional then none else some none
  | many => none

end Cardinality

namespace Shape

/-- The fields of a record in JSON. -/
def jsonMembers : (s : Shape) → s.Record → List (String × List Char)
  | done, _ => []
  | field name _ c scalar rest, (content, others) =>
    (name, c.jsonText scalar.jsonText content) :: rest.jsonMembers others
  | nested name _ inner rest, (content, others) =>
    (name, match content with
      | none => "null".toList
      | some r => Json.objectText (inner.jsonMembers r)) :: rest.jsonMembers others

/-- The record of a list of field values. -/
def ofFields? (positional : Bool) : (s : Shape) → List (Option Json) → Option s.Record
  | done, [] => some ()
  | done, _ :: _ => none
  | field _ _ c scalar rest, value :: others => do
    let content ← match value with
      | none => c.ofAbsent? positional
      | some j => c.ofJson? scalar.ofJson? j
    return (content, ← rest.ofFields? positional others)
  | nested _ _ inner rest, value :: others => do
    let content ← match value with
      | none => if positional then none else some none
      | some j => j.nullable? fun j =>
        (Json.fields? inner.fieldNames j).bind fun fs => inner.ofFields? fs.positional fs.values
    return (content, ← rest.ofFields? positional others)
  | field _ _ _ _ _, [] => none
  | nested _ _ _ _, [] => none

/-- The record that a JSON value describes. -/
def ofJson? (s : Shape) (j : Json) : Option s.Record :=
  (Json.fields? s.fieldNames j).bind fun fs => s.ofFields? fs.positional fs.values

end Shape

namespace RecordKind

/-- The JSON text of a record. -/
def encodeJson (k : RecordKind) (content : k.shape.Record) : Bytes :=
  Text.Utf8.encode (String.ofList (Json.objectText (k.shape.jsonMembers content)))

/-- The record of a JSON text. -/
def decodeJson (k : RecordKind) (data : Bytes) : Option k.shape.Record :=
  (Json.parse? data).bind k.shape.ofJson?

/-- The codec of a kind of records in JSON. -/
def json (k : RecordKind) : MessageCodec where
  kind := .record k
  form := {
    write content := .ok (k.encodeJson content)
    read data := (k.decodeJson data).elim (.error "<json>") .ok }

end RecordKind

namespace RawKind

/-- The JSON text of a buffer. -/
def encodeJson (bytes : Bytes) : Bytes :=
  Text.Utf8.encode
    (String.ofList (Json.arrayText (bytes.map fun b => (Text.integerText b.toNat).toList)))

/-- The buffer of a JSON text. -/
def decodeJson (data : Bytes) : Option Bytes :=
  (Json.parse? data).bind fun j =>
    j.list? fun j => (j.integer? ⟨false, 8⟩).map fun n => UInt8.ofNat n.toNat

/-- The codec of a kind of buffers in JSON. -/
def json (k : RawKind) : MessageCodec where
  kind := .raw k
  form := {
    write bytes := .ok (encodeJson bytes)
    read data := (decodeJson data).elim (.error "<json>") .ok }

end RawKind

end WireSchemas
