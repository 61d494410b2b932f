import WireSchemas.Checksum
import WireSchemas.RegisteredSchema
import WireSchemas.SortedMap

/-!
# The schema store

The remote registry keeps the latest revision of each schema.  A schema is created and updated by
the same request, and each such request makes a new revision: the versions of one schema count
from one, in 32 bits.  A revision is identified by a checksum of what it is.
-/

namespace WireSchemas.Remote

/-- A request to create or update a schema. -/
structure CreateRequest where
  schema : SchemaInfo
  /-- The definition in UTF-8, empty for formats without one. -/
  definition : Bytes
deriving Repr, DecidableEq

/-- The stamp on a new revision. -/
structure Revision where
  id : String
  version : Version
  createdAt : Timestamp
deriving Repr, DecidableEq

/-- The latest revision of a schema with its definition. -/
structure StoredSchema where
  revision : Revision
  definition : Bytes
deriving Repr, DecidableEq

/-- The record of a stored schema. -/
def StoredSchema.record (s : StoredSchema) (schema : SchemaInfo) : RegisteredSchema :=
  ⟨schema.name, schema.format, s.revision.id, Text.Utf8.decodeLossy s.definition,
    s.revision.version, s.revision.createdAt⟩

/-- The latest revisions of all schemas. -/
structure Store where
  schemas : SortedMap SchemaInfo StoredSchema
  /-- The number of requests carried out. -/
  creates : Nat
deriving DecidableEq

namespace Store

/-- The store without schemas. -/
def empty : Store :=
  ⟨.empty, 0⟩

instance : Inhabited Store := ⟨empty⟩

/-- The latest revision of a schema. -/
def latest? (s : Store) (schema : SchemaInfo) : Option StoredSchema :=
  s.schemas.get? schema

/-- The version of the next revision of a schema.  The least version follows the greatest one. -/
def nextVersion (s : Store) (schema : SchemaInfo) : Version :=
  match s.latest? schema with
  | none => 1
  | some latest => latest.revision.version + 1

/-- What identifies a revision. -/
def revisionFields (request : CreateRequest) (version : Version) : List String :=
  [request.schema.name, request.schema.format.name, Text.integerText version.toInt,
    Text.Utf8.decodeLossy request.definition]

/-- The stamp on the next revision of a schema at a given time. -/
def nextRevision (s : Store) (now : Timestamp) (request : CreateRequest) : Revision :=
  let version := s.nextVersion request.schema
  ⟨Checksum.ofFields (revisionFields request version), version, now⟩

/-- The store after a request at a given time. -/
def create (s : Store) (now : Timestamp) (request : CreateRequest) : Store :=
  ⟨s.schemas.insert request.schema ⟨s.nextRevision now request, request.definition⟩,
    s.creates + 1⟩

/-- The number of schemas. -/
def size (s : Store) : Nat :=
  s.schemas.size

end Store

end WireSchemas.Remote
