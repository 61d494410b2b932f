import WireSchemas.Remote.Interleaving
import WireSchemas.Serializer

/-!
# Registries

A registry has settings, a catalog of message kinds, a type cache and a serializer for each of
some formats.  It serializes with the serializer of the format that the headers name.  Its
serializers work by its own settings, catalog and cache; one that works by those of another registry
is not covered.
-/

namespace WireSchemas

open Remote

/-- A schema and codec registry. -/
structure Registry where
  options : Options
  catalog : Catalog
  codecs : SortedMap DataFormat Codec
  cache : TypeCache

namespace Registry

/-- A registry without serializers, kinds and bindings. -/
def new (options : Options) : Registry :=
  ⟨options, .empty, .empty, .empty⟩

/-- The registry with a serializer in place of the one of its format. -/
def withCodec (r : Registry) (c : Codec) : Registry :=
  { r with codecs := r.codecs.insert c.format c }

/-- The registry with a list of serializers installed one after the other. -/
def withCodecs (r : Registry) (codecs : List Codec) : Registry :=
  codecs.foldl withCodec r

/-- A registry with the serializers for bytes, JSON and Protobuf. -/
def standard (options : Options) : Registry :=
  (new options).withCodecs [.bytes, .json, .protobuf]

/-- The registry with other kinds. -/
def withCatalog (r : Registry) (catalog : Catalog) : Registry :=
  { r with catalog }

/-- The format of the registry itself, which serves many. -/
def format : DataFormat := .unspecified

/-- The formats with a serializer, in order. -/
def formats (r : Registry) : List DataFormat :=
  r.codecs.keys

/-- Whether a format has a serializer. -/
def supports (r : Registry) (format : DataFormat) : Bool :=
  r.codecs.contains format

/-- The serializer of a format. -/
def codec (r : Registry) (format : DataFormat) : Except Failure Codec :=
  match r.codecs.get? format with
  | some c => .ok c
  | none => .error (.serializerNotFound format r.formats)

/-! ### Serialization -/

/-- Serialize with a given serializer. -/
def serializeBy (r : Registry) (c : Codec) (m : Option Message) (headers : Headers) :
    Operation Serialized :=
  c.serialize r.options r.catalog m headers

/-- Serialize with the serializer of the format in the headers. -/
def serialize (r : Registry) (m : Option Message) (headers : Headers) : Operation Serialized :=
  match r.codec (SchemaInfo.ofHeaders headers).format with
  | .ok c => r.serializeBy c m headers
  | .error f => fun cache => .done cache ⟨headers, .error f⟩

/-- Deserialize with a given serializer. -/
def deserializeBy (r : Registry) (c : Codec) (data : Bytes) (headers : Headers) :
    Except Failure (Option Message) :=
  c.deserialize r.cache r.catalog data headers

/-- Deserialize with the serializer of the format in the headers. -/
def deserialize (r : Registry) (data : Bytes) (headers : Headers) :
    Except Failure (Option Message) :=
  match r.codec (SchemaInfo.ofHeaders headers).format with
  | .ok c => r.deserializeBy c data headers
  | .error f => .error f

/-- The headers that carry a schema info and nothing else. -/
def headersOf (info : SchemaInfo) : Headers :=
  Headers.withSchemaInfo .empty info

/-- Serialize under a schema info instead of headers. -/
def serializeWith (r : Registry) (m : Option Message) (info : SchemaInfo) :
    Operation Serialized :=
  r.serialize m (headersOf info)

/-- Deserialize under a schema info instead of headers. -/
def deserializeWith (r : Registry) (data : Bytes) (info : SchemaInfo) :
    Except Failure (Option Message) :=
  r.deserialize data (headersOf info)

/-- What came of a deserialization. -/
inductive Reading where
  | deserialized (m : Message)
  | empty
  | failed (f : Failure)

/-- The outcome of a deserialization as one of three cases. -/
def Reading.ofResult : Except Failure (Option Message) → Reading
  | .ok (some m) => .deserialized m
  | .ok none => .empty
  | .error f => .failed f

/-- The outcome of a deserialization as a result. -/
def Reading.toResult : Reading → Except Failure (Option Message)
  | .deserialized m => .ok (some m)
  | .empty => .ok none
  | .failed f => .error f

/-! ### Running operations -/

/-- The registry after an operation carried out on its own, and the outcome. -/
def perform {σ α : Type} (r : Registry) (client : Client σ) (token : Token) (s : σ)
    (op : Operation α) : Registry × Outcome σ α :=
  let o := (op r.cache).run client token s
  ({ r with cache := o.cache }, o)

end Registry

end WireSchemas
