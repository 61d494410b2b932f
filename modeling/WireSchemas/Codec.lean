import WireSchemas.Catalog
import WireSchemas.Headers.Schema

/-!
# Codecs

A codec writes and reads message bodies in one format.  It sees the catalog and the headers of
the call; a body may hold no message at all.  Three codecs are built in.
-/

namespace WireSchemas

/-- A writer and a reader of message bodies. -/
structure Codec where
  /-- The format of the bodies. -/
  format : DataFormat
  encode : Catalog → Headers → Message → Except CodecFailure Bytes
  /-- The type is missing when the schema was never bound to one. -/
  decode : Catalog → Headers → MessageType → Bytes → Except CodecFailure (Option Message)

namespace Codec

/-- Byte buffers as they are. -/
def bytes : Codec where
  format := .bytes
  encode _ _ m :=
    match m.rawBytes? with
    | some data => .ok data
    | none => .error (.notRaw m.type)
  decode _ _ _ data := .ok (some (.ofBytes data))

/-- Messages of the catalog in JSON. -/
def json : Codec where
  format := .json
  encode catalog _ m :=
    match catalog.json? m.type with
    | some c => c.encode m
    | none => .error (.noJsonCodec m.type)
  decode catalog headers type data :=
    if type.isMissing then .error (.unresolvedJson (SchemaInfo.ofHeaders headers).name)
    else
      match catalog.json? type with
      | some c => (c.decode data).map some
      | none => .error (.noJsonCodec type)

/-- Messages of the catalog in Protobuf. -/
def protobuf : Codec where
  format := .protobuf
  encode catalog _ m :=
    match catalog.protobuf? m.type with
    | some c => c.encode m
    | none => .error (.noProtobufCodec m.type)
  decode catalog headers type data :=
    match catalog.protobuf? type with
    | some c => (c.decode data).map some
    | none => .error (.unresolvedProtobuf (SchemaInfo.ofHeaders headers).name)

/-- The codec that the library has for a format. -/
def builtIn? : DataFormat → Option Codec
  | .bytes => some bytes
  | .json => some json
  | .protobuf => some protobuf
  | .avro => none
  | .unspecified => none

end Codec

end WireSchemas
