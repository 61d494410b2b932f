import WireSchemas.Naming.Strategy
import WireSchemas.Remote.Process

/-!
# Resolution of schemas

Naming, the type cache and the remote registry together decide which schema a message has.  A
schema without a name is looked for under a subject that the type was bound to before, and is
otherwise created under the subject that the naming rule derives outside of any stream.  The cache
is changed after the remote registry has answered, never before.
-/

namespace WireSchemas

open Remote

/-- The settings of a registry. -/
structure Options where
  /-- Derives a subject where the schema name is missing. -/
  subjectRule : Naming.SubjectRule
  /-- Whether unseen types are registered on first use. -/
  autoRegister : Bool
deriving DecidableEq

namespace Options

/-- Subjects are full names of types, and unseen types are registered. -/
def default : Options :=
  ⟨.fullName, true⟩

instance : Inhabited Options := ⟨default⟩

/-- The schema info of a type outside of any stream. -/
def schemaInfo (o : Options) (type : MessageType) (format : DataFormat) :
    Except Failure SchemaInfo :=
  (o.subjectRule.subject type .none).map fun subject => ⟨subject, format⟩

/-- The schema under which a type is registered: the given one, or the derived one when the name
is missing. -/
def registrationSchema (o : Options) (info : SchemaInfo) (type : MessageType) :
    Except Failure SchemaInfo :=
  if type.isMissing then .error (.invalidInput .missingType)
  else if info.NameMissing then o.schemaInfo type info.format
  else .ok info

end Options

namespace Resolution

/-- The bytes sent for a definition, none for a blank one. -/
def definitionBytes (definition : String) : Bytes :=
  if Text.Blank definition then [] else Text.Utf8.encode definition

/-- The record of a new revision, with the definition as it was given. -/
def newRecord (schema : SchemaInfo) (definition : String) (r : Revision) : RegisteredSchema :=
  ⟨schema.name, schema.format, r.id, definition, r.version, r.createdAt⟩

/-- Create or update a schema and bind it to a type. -/
def register (o : Options) (info : SchemaInfo) (definition : String) (type : MessageType) :
    Operation (Except Failure RegisteredSchema) := fun cache =>
  match o.registrationSchema info type with
  | .error f => .done cache (.error f)
  | .ok schema =>
    .create cache ⟨schema, definitionBytes definition⟩ fun answer cache' =>
      match answer with
      | .error f => .done cache' (.error f)
      | .ok revision => .done (cache'.bind type schema) (.ok (newRecord schema definition revision))

/-- The latest schema of a name, or the record of a schema not found. -/
def find (info : SchemaInfo) : Operation (Except Failure RegisteredSchema) := fun cache =>
  if info.NameMissing then .done cache (.error (.invalidInput .missingName))
  else
    .lookup cache info fun answer cache' =>
      .done cache' (answer.map fun found =>
        match found with
        | none => .none
        | some stored => stored.record info)

/-- The schema that is known for an info and a type: that of the given name, or of a name that
the type was bound to before. -/
def findKnown (info : SchemaInfo) (type : MessageType) :
    Operation (Except Failure RegisteredSchema) := fun cache =>
  if info.NameMissing then
    match cache.subject? type info.format with
    | some subject => find (info.withName subject) cache
    | none => .done cache (.ok .none)
  else find info cache

/-- Find a schema and bind it to a type, or register it if that is allowed. -/
def findOrRegister (o : Options) (info : SchemaInfo) (type : MessageType) :
    Operation (Except Failure RegisteredSchema) :=
  Operation.andThen (findKnown info type) fun found cache =>
    if !found.isNone then
      .done (if type.isMissing then cache else cache.bind type found.info) (.ok found)
    else if !o.autoRegister then .done cache (.error (.notRegistered type))
    else register o info "" type cache

/-- The latest schemas of a list of infos, one after the other. -/
def findAll : List SchemaInfo → Operation (Except Failure (List RegisteredSchema))
  | [], cache => .done cache (.ok [])
  | info :: rest, cache =>
    Operation.andThen (find info)
      (fun found => Operation.andThen (findAll rest) fun others cache' =>
        .done cache' (.ok (found :: others))) cache

/-- The latest schemas of all bindings of a type in a format, or in any when it is
unspecified. -/
def list (type : MessageType) (format : DataFormat) :
    Operation (Except Failure (List RegisteredSchema)) := fun cache =>
  findAll (cache.schemasOf type format) cache

end Resolution

end WireSchemas
