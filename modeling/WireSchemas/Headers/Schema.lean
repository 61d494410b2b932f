import WireSchemas.DataFormat.Reader
import WireSchemas.Headers

/-!
# The schema in the headers

Two headers carry the schema info of a message body.  Two former keys are read when the present
ones are absent, null or, in the case of the format, unreadable; they are never written.
-/

namespace WireSchemas

namespace SchemaInfo

/-- The schema info that headers carry. -/
def ofHeaders (h : Headers) : SchemaInfo :=
  let formerFormat := h.parseD Headers.formerFormatKey DataFormat.parse .unspecified
  ⟨h.textD Headers.schemaNameKey (h.textD Headers.formerNameKey ""),
    h.parseD Headers.dataFormatKey DataFormat.parse formerFormat⟩

/-- The info inferred from the name of an event type and its media type. -/
def ofContentType (name contentType : String) : Except Failure SchemaInfo :=
  if name.isEmpty then .error (.invalidInput (.blank "schema_name"))
  else if contentType.isEmpty then .error (.invalidInput (.blank "content_type"))
  else .ok ⟨name, .ofContentType contentType⟩

end SchemaInfo

namespace Headers

/-- Headers with another schema name. -/
def setSchemaName (h : Headers) (name : String) : Headers :=
  h.set schemaNameKey (some name)

/-- Headers with the name and the format of a schema info. -/
def withSchemaInfo (h : Headers) (info : SchemaInfo) : Headers :=
  (h.setSchemaName info.name).set dataFormatKey (some info.format.name)

end Headers

end WireSchemas
