import WireSchemas.MessageType
import WireSchemas.Naming.StrategyName
import WireSchemas.SchemaInfo

/-!
# Failures

Every operation of the library fails for one of the causes of `Failure`, and `Failure.message`
is the text shown for it.  An encoder or decoder of message bodies has causes of its own,
`CodecFailure`, which a failure of the registry carries with it.
-/

namespace WireSchemas

/-- What is wrong with an argument. -/
inductive InvalidInput where
  /-- A text that must not be blank. -/
  | blank (argument : String)
  /-- The missing message type where a type is needed. -/
  | missingType
  /-- A look-up without a schema name. -/
  | missingName
  /-- A text that names no data format, normalised. -/
  | unknownDataFormat (text : String)
  /-- A text that names no output format of names, normalised. -/
  | unknownOutputFormat (text : String)
  /-- A strategy that needs a configured scope. -/
  | scopeRequired (strategy : Naming.StrategyName)
  /-- A configured format that the library has no serializer for. -/
  | noBuiltInSerializer (format : DataFormat)
deriving Repr, DecidableEq

namespace InvalidInput

/-- The name of the argument. -/
def argument : InvalidInput → String
  | blank argument => argument
  | missingType => "message_type"
  | missingName => "schema_name"
  | unknownDataFormat _ => "data_format"
  | unknownOutputFormat _ => "format"
  | scopeRequired _ => "naming.namespace_id"
  | noBuiltInSerializer _ => "registry.formats"

/-- What the argument lacks. -/
def reason : InvalidInput → String
  | blank _ => "cannot be empty or whitespace"
  | missingType => "message type is missing"
  | missingName => "the subject is missing from the schema info"
  | unknownDataFormat text => "unknown schema data format '" ++ text ++ "'"
  | unknownOutputFormat text => "unsupported schema name format '" ++ text ++ "'"
  | scopeRequired strategy => "required by the " ++ strategy.label ++ " strategy"
  | noBuiltInSerializer format => "no built-in serializer for " ++ format.name

end InvalidInput

/-- Why a message body could not be written or read. -/
inductive CodecFailure where
  /-- A value that is no byte buffer. -/
  | notRaw (type : MessageType)
  /-- A type that the catalog has no JSON codec for. -/
  | noJsonCodec (type : MessageType)
  /-- A type that the catalog has no Protobuf codec for. -/
  | noProtobufCodec (type : MessageType)
  /-- A JSON body whose schema was never bound to a type. -/
  | unresolvedJson (schemaName : String)
  /-- A Protobuf body whose schema leads to no type of the catalog. -/
  | unresolvedProtobuf (schemaName : String)
  /-- A value of another kind than the codec was made for. -/
  | typeMismatch (expected actual : MessageType)
  /-- A value that the form of its kind cannot write, or a body that it cannot read. -/
  | form (text : String)
  /-- A refusal of a codec from outside the library. -/
  | refused (text : String)
deriving Repr, DecidableEq

/-- Why an operation failed. -/
inductive Failure where
  | invalidInput (cause : InvalidInput)
  /-- A serializer asked for another format than its own. -/
  | unsupportedFormat (expected actual : DataFormat)
  /-- A format without a serializer, and the formats with one. -/
  | serializerNotFound (format : DataFormat) (supported : List DataFormat)
  /-- A schema that does not exist and may not be created. -/
  | notRegistered (type : MessageType)
  | encodingFailed (schema : SchemaInfo) (cause : CodecFailure)
  | decodingFailed (schema : SchemaInfo) (cause : CodecFailure)
  | headerAlreadyPresent (key : String)
  /-- The call was given up before the remote registry answered. -/
  | cancelled
  /-- A failure of the remote registry, passed on. -/
  | remote (text : String)
  /-- A configuration that cannot be read. -/
  | configuration
  /-- A file that cannot be read or written. -/
  | file (text : String)
deriving Repr, DecidableEq

namespace Failure

/-- Format names with commas between them. -/
def formatList (formats : List DataFormat) : String :=
  if formats.isEmpty then "none" else ", ".intercalate (formats.map DataFormat.name)

/-- The text shown for a failure. -/
def message : Failure → String
  | invalidInput cause => "Invalid argument `" ++ cause.argument ++ "`: " ++ cause.reason
  | unsupportedFormat expected actual =>
    "Unsupported schema format: serializer handles " ++ expected.name ++ ", context requested "
      ++ actual.name
  | serializerNotFound format supported =>
    "No serializer registered for " ++ format.name ++ " (supported: " ++ formatList supported
      ++ ")"
  | notRegistered type =>
    "The message schema for " ++ type.display
      ++ " is not registered and auto registration is disabled"
  | encodingFailed schema _ =>
    "Failed to serialize " ++ schema.format.name ++ " message with schema " ++ schema.name
  | decodingFailed schema _ =>
    "Failed to deserialize " ++ schema.format.name ++ " message with schema " ++ schema.name
  | headerAlreadyPresent key => "Header already present: " ++ key
  | cancelled => "Operation cancelled before the schema registry responded"
  | remote text => "Remote registry error: " ++ text
  | configuration => "Config error"
  | file text => "IO error: " ++ text

end Failure

/-- The text of a codec's failure. -/
def CodecFailure.message : CodecFailure → String
  | notRaw type => type.display ++ " is not a raw byte buffer"
  | noJsonCodec type => type.display ++ " has no json codec in the catalog"
  | noProtobufCodec type => type.display ++ " is not a registered protobuf message"
  | unresolvedJson schemaName =>
    "no message type is registered for schema '" ++ schemaName ++ "'"
  | unresolvedProtobuf schemaName =>
    "schema '" ++ schemaName ++ "' does not resolve to a registered protobuf message"
  | typeMismatch expected actual =>
    "codec for " ++ expected.display ++ " received a " ++ actual.display ++ " value"
  | form text => text
  | refused text => text

end WireSchemas
