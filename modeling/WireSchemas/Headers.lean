import WireSchemas.Failure
import WireSchemas.Json.Reader
import WireSchemas.Json.Writer
import WireSchemas.SortedMap
import WireSchemas.Text.LowerCase

/-!
# Message headers

Headers travel beside a message body: a map from keys to texts, where a key may also be present
without a value.  Keys that start with a dollar sign belong to the system, all others to the
application.  On the wire headers are a JSON object with its members in key order; whatever is
no such object is read as no headers.
-/

namespace WireSchemas

/-- A map from keys to texts or nulls, in key order. -/
abbrev Headers := SortedMap String (Option String)

namespace Headers

/-! ### Keys -/

/-- The first character of the keys of the system. -/
def systemMark : Char := '$'

/-- The key of the schema name. -/
def schemaNameKey : String := "$schema.name"

/-- The key of the data format. -/
def dataFormatKey : String := "$schema.data-format"

/-- The former key of the schema name, still read. -/
def formerNameKey : String := "kurrentdb.schema.subject"

/-- The former key of the data format, still read. -/
def formerFormatKey : String := "kurrentdb.schema.type"

/-- The key that marks a record of an older system. -/
def legacyMetadataKey : String := "$legacy-metadata"

/-- All keys that carry the schema. -/
def schemaKeys : List String :=
  [schemaNameKey, dataFormatKey, formerNameKey, formerFormatKey]

/-- Whether a key belongs to the system. -/
def isSystemKey (key : String) : Bool :=
  key.toList.head? == some systemMark

/-- Whether a key carries the schema. -/
def isSchemaKey (key : String) : Bool :=
  schemaKeys.contains key

/-! ### Changes and look-ups -/

/-- Headers with a value for a key, in place of the one it had. -/
def set (h : Headers) (key : String) (value : Option String) : Headers :=
  h.insert key value

/-- Headers with a value for a new key. -/
def add (h : Headers) (key : String) (value : Option String) : Except Failure Headers :=
  if h.contains key then .error (.headerAlreadyPresent key) else .ok (h.set key value)

/-- Headers with a number for a key. -/
def setNumber (h : Headers) (key : String) (n : Int) : Headers :=
  h.set key (some (Text.integerText n))

/-- Headers with a number for a new key. -/
def addNumber (h : Headers) (key : String) (n : Int) : Except Failure Headers :=
  h.add key (some (Text.integerText n))

/-- The text of a key; none when the key is absent or null. -/
def text? (h : Headers) (key : String) : Option String :=
  (h.get? key).join

/-- The text of a key, or a default. -/
def textD (h : Headers) (key default : String) : String :=
  (h.text? key).getD default

/-- The value that a reader makes of the text of a key, or a default. -/
def parseD {α : Type} (h : Headers) (key : String) (read : String → Except Failure α)
    (default : α) : α :=
  match h.text? key with
  | none => default
  | some s => (read s).toOption.getD default

/-- The number of type `t` that the text of a key denotes, blanks around it aside. -/
def integerD (h : Headers) (key : String) (t : Text.IntegerType) (default : Int) : Int :=
  ((h.text? key).bind fun s => t.parse? (Text.trim s)).getD default

/-- The truth value that the text of a key denotes, blanks around it aside. -/
def boolD (h : Headers) (key : String) (default : Bool) : Bool :=
  match (h.text? key).map Text.trim with
  | some "true" => true
  | some "false" => false
  | _ => default

/-! ### Parts -/

/-- The headers of the system. -/
def systemInfo (h : Headers) : Headers :=
  h.filter isSystemKey

/-- The headers of the application. -/
def withoutSystemInfo (h : Headers) : Headers :=
  h.filter fun key => !isSystemKey key

/-- The headers that do not carry the schema. -/
def withoutSchemaInfo (h : Headers) : Headers :=
  h.filter fun key => !isSchemaKey key

/-! ### Wire form -/

/-- The JSON text of headers. -/
def encodeText (h : Headers) : String :=
  String.ofList (Json.objectText (h.toList.map fun e => (e.1, Json.nullableText e.2)))

/-- The wire form of headers. -/
def encode (h : Headers) : Bytes :=
  Text.Utf8.encode h.encodeText

/-- The headers of a wire form; of several members with one key the last counts. -/
def read? (input : Bytes) : Option Headers :=
  ((Json.parse? input).bind Json.textMembers?).map SortedMap.ofList

/-- The headers of a wire form, none when it is malformed. -/
def decode (input : Bytes) : Headers :=
  (read? input).getD SortedMap.empty

end Headers

end WireSchemas
