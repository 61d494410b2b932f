import WireSchemas.Message.Form
import WireSchemas.SortedMap

/-!
# The catalog of message kinds

An application registers its kinds with their codecs for JSON, for Protobuf or for both.  For each
message type and format the catalog keeps the codec that was registered last.
-/

namespace WireSchemas

/-- The codecs registered for a message type. -/
structure CatalogEntry where
  json : Option MessageCodec
  protobuf : Option MessageCodec

/-- The codecs registered for each message type. -/
abbrev Catalog := SortedMap MessageType CatalogEntry

namespace Catalog

/-- The entry of a type, without codecs if there is none. -/
def entry (c : Catalog) (type : MessageType) : CatalogEntry :=
  (c.get? type).getD ⟨none, none⟩

/-- The catalog with a codec for JSON in place of the former one of its type. -/
def registerJson (c : Catalog) (codec : MessageCodec) : Catalog :=
  c.insert codec.kind.type { c.entry codec.kind.type with json := some codec }

/-- The catalog with a codec for Protobuf in place of the former one of its type. -/
def registerProtobuf (c : Catalog) (codec : MessageCodec) : Catalog :=
  c.insert codec.kind.type { c.entry codec.kind.type with protobuf := some codec }

/-- The codec of a type in JSON. -/
def json? (c : Catalog) (type : MessageType) : Option MessageCodec :=
  (c.get? type).bind CatalogEntry.json

/-- The codec of a type in Protobuf. -/
def protobuf? (c : Catalog) (type : MessageType) : Option MessageCodec :=
  (c.get? type).bind CatalogEntry.protobuf

end Catalog

end WireSchemas
