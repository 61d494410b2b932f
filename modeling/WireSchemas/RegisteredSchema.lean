import WireSchemas.Json.Reader
import WireSchemas.Json.Writer
import WireSchemas.SchemaInfo
import WireSchemas.Timestamp.Reader

/-!
# Registered schemas

A record of a schema as the remote registry knows it.  The record with every field empty stands
for a schema that was not found.
-/

namespace WireSchemas

/-- The number of a revision, counted from one by the remote registry. -/
abbrev Version := Int32

/-- A schema with what the remote registry stamped on its latest revision. -/
structure RegisteredSchema where
  subject : String
  format : DataFormat
  revisionId : String
  /-- The text of the definition, empty for formats without one. -/
  definition : String
  version : Version
  createdAt : Timestamp
deriving Repr, DecidableEq, Inhabited

namespace RegisteredSchema

/-- The record of a schema that was not found. -/
def none : RegisteredSchema :=
  ⟨"", .unspecified, "", "", 0, .epoch⟩

/-- Whether a record is that of a schema not found; every field counts. -/
def isNone (r : RegisteredSchema) : Bool :=
  r == none

/-- The name and the format of a record. -/
def info (r : RegisteredSchema) : SchemaInfo :=
  ⟨r.subject, r.format⟩

/-! ### JSON form -/

/-- The names of the fields in JSON. -/
def fieldNames : List String :=
  ["subject", "data_format", "revision_id", "definition", "version", "created_at"]

/-- The JSON text of a record. -/
def toJson (r : RegisteredSchema) : String :=
  String.ofList <| Json.objectText
    [("subject", Json.quoted r.subject),
     ("data_format", Json.quoted r.format.name),
     ("revision_id", Json.quoted r.revisionId),
     ("definition", Json.quoted r.definition),
     ("version", (Text.integerText r.version.toInt).toList),
     ("created_at", Json.quoted r.createdAt.rfc3339)]

/-- The record that a JSON value describes; all fields are needed. -/
def ofJson? (j : Json) : Option RegisteredSchema := do
  let fields ← Json.fields? fieldNames j
  match fields.values with
  | [some subject, some format, some revisionId, some definition, some version, some createdAt] =>
    return {
      subject := ← subject.text?
      format := ← (← format.alternative?) |> DataFormat.ofName?
      revisionId := ← revisionId.text?
      definition := ← definition.text?
      version := Int32.ofInt (← version.integer? ⟨true, 32⟩)
      createdAt := ← Timestamp.parse? (← createdAt.text?) }
  | _ => failure

end RegisteredSchema

end WireSchemas
