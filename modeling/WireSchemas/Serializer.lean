import WireSchemas.Codec
import WireSchemas.Resolution

/-!
# Serializers

A serializer is a codec under the rules of a registry.  It serves its own format only.  An absent
message has an empty body and byte buffers pass through as they are, both without a schema; any
other message has its schema found or registered first, and a name that was missing from the
headers is written into them.
-/

namespace WireSchemas

open Remote

/-- What serialization leaves: the headers, and the body or a failure. -/
structure Serialized where
  headers : Headers
  body : Except Failure Bytes

namespace Codec

/-- A format other than that of the codec is refused. -/
def guard (c : Codec) (info : SchemaInfo) : Except Failure Unit :=
  if info.format = c.format then .ok () else .error (.unsupportedFormat c.format info.format)

/-- The headers with the name of a record, if they had none. -/
def nameHeaders (headers : Headers) (record : RegisteredSchema) : Headers :=
  if (SchemaInfo.ofHeaders headers).NameMissing then headers.setSchemaName record.subject
  else headers

/-- The body of a message whose schema is known. -/
def encodeResolved (c : Codec) (catalog : Catalog) (headers : Headers) (m : Message)
    (record : RegisteredSchema) : Serialized :=
  let headers := nameHeaders headers record
  ⟨headers, match c.encode catalog headers m with
    | .ok data => .ok data
    | .error cause => .error (.encodingFailed record.info cause)⟩

/-- Serialize a message, which may be absent. -/
def serialize (c : Codec) (o : Options) (catalog : Catalog) (m : Option Message)
    (headers : Headers) : Operation Serialized := fun cache =>
  let info := SchemaInfo.ofHeaders headers
  match c.guard info with
  | .error f => .done cache ⟨headers, .error f⟩
  | .ok () =>
    match m with
    | none => .done cache ⟨headers, .ok []⟩
    | some m =>
      match m.rawBytes? with
      | some bytes => .done cache ⟨headers, .ok bytes⟩
      | none =>
        (Resolution.findOrRegister o info m.type cache).bind fun result cache' =>
          match result with
          | .error f => .done cache' ⟨headers, .error f⟩
          | .ok record => .done cache' (c.encodeResolved catalog headers m record)

/-- Deserialize a body, which may hold no message. -/
def deserialize (c : Codec) (cache : TypeCache) (catalog : Catalog) (data : Bytes)
    (headers : Headers) : Except Failure (Option Message) :=
  let info := SchemaInfo.ofHeaders headers
  match c.guard info with
  | .error f => .error f
  | .ok () =>
    if data.isEmpty then .ok none
    else if info.format = .bytes then .ok (some (.ofBytes data))
    else
      match c.decode catalog headers (cache.typeOf info) data with
      | .ok m => .ok m
      | .error cause => .error (.decodingFailed info cause)

end Codec

end WireSchemas
