import WireSchemas.Codec

/-!
# A codec for trials

The stub writes what it can see of a call instead of the message: the schema, the type and the
number of headers.  It refuses one name on purpose, and its reader is steered by the first byte.
-/

namespace WireSchemas.Codec

/-- The type name that the stub refuses. -/
def stubRefuses : String := "UserDeleted"

/-- A codec that describes its calls. -/
def stub (format : DataFormat) : Codec where
  format := format
  encode _ headers m :=
    if m.type.name = stubRefuses then .error (.refused ("stub refuses " ++ m.type.display))
    else
      let schema := SchemaInfo.ofHeaders headers
      .ok (Text.Utf8.encode
        (schema.display ++ "|" ++ m.type.display ++ "|" ++ Text.integerText headers.size))
  decode _ headers type data :=
    match data with
    | 0x00 :: _ => .ok none
    | 0xFF :: _ =>
      let schema := SchemaInfo.ofHeaders headers
      .error (.refused ("stub cannot decode " ++ schema.display ++ " as " ++ type.display))
    | _ => .ok (some (.ofBytes (Text.Utf8.encode (type.display ++ ":") ++ data)))

end WireSchemas.Codec
