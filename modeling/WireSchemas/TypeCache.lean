import WireSchemas.MessageType
import WireSchemas.SchemaInfo
import WireSchemas.SortedMap

/-!
# The type cache

A registry remembers which message type each schema is bound to.  The cache holds the bindings
in both directions: the type of each schema, and the schemas of each type.  A new binding of a
schema takes the place of the old one, and nothing is forgotten otherwise.
-/

namespace WireSchemas

/-- A set of schemas in order of names, then of formats. -/
abbrev SchemaSet := SortedMap SchemaInfo Unit

/-- The bindings of schemas to types. -/
structure TypeCache where
  /-- The type that each schema is bound to. -/
  types : SortedMap SchemaInfo MessageType
  /-- The schemas bound to each type. -/
  schemas : SortedMap MessageType SchemaSet
deriving DecidableEq

namespace TypeCache

/-- The cache without bindings. -/
def empty : TypeCache :=
  ⟨.empty, .empty⟩

instance : Inhabited TypeCache := ⟨empty⟩

/-- The schemas of each type when a schema leaves its former type for another. -/
def released (schemas : SortedMap MessageType SchemaSet) (former : Option MessageType)
    (type : MessageType) (schema : SchemaInfo) : SortedMap MessageType SchemaSet :=
  match former with
  | none => schemas
  | some t =>
    if t = type then schemas
    else
      match schemas.get? t with
      | none => schemas
      | some set => schemas.insert t (set.erase schema)

/-- The cache with a schema bound to a type. -/
def bind (c : TypeCache) (type : MessageType) (schema : SchemaInfo) : TypeCache :=
  let schemas := released c.schemas (c.types.get? schema) type schema
  ⟨c.types.insert schema type,
    schemas.insert type (((schemas.get? type).getD .empty).insert schema ())⟩

/-- The type that a schema is bound to. -/
def type? (c : TypeCache) (schema : SchemaInfo) : Option MessageType :=
  c.types.get? schema

/-- The type that a schema is bound to, the missing type if there is none. -/
def typeOf (c : TypeCache) (schema : SchemaInfo) : MessageType :=
  (c.type? schema).getD .missing

/-- The schemas bound to a type, in order. -/
def bound (c : TypeCache) (type : MessageType) : List SchemaInfo :=
  ((c.schemas.get? type).getD .empty).keys

/-- The first subject bound to a type in a format. -/
def subject? (c : TypeCache) (type : MessageType) (format : DataFormat) : Option String :=
  ((c.bound type).find? fun s => s.format == format).map SchemaInfo.name

/-- The schemas bound to a type in a format, or in any format when it is unspecified. -/
def schemasOf (c : TypeCache) (type : MessageType) (format : DataFormat) : List SchemaInfo :=
  (c.bound type).filter fun s => format == .unspecified || s.format == format

/-- The number of bindings. -/
def size (c : TypeCache) : Nat :=
  c.types.size

end TypeCache

end WireSchemas
