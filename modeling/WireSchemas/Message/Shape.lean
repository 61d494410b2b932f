/-!
# Shapes of records

A shape lists the fields of a message in the order of their Protobuf tags: names, tags and the
types of their values.  `Shape.Record` is the type of the records of a shape, so a record always
fits its shape.
-/

namespace WireSchemas

/-- The type of a single value. -/
inductive Scalar where
  | string
  | bool
  | int32
  | int64
  | uint64
  /-- A 64-bit number written so that small negative numbers are short. -/
  | sint64
  /-- A 32-bit number of fixed width. -/
  | fixed32
deriving Repr, DecidableEq

/-- How many values a field holds. -/
inductive Cardinality where
  | one
  | atMostOne
  | many
deriving Repr, DecidableEq

/-- The fields of a record. -/
inductive Shape where
  /-- No more fields. -/
  | done
  /-- A field with scalar values. -/
  | field (name : String) (tag : Nat) (cardinality : Cardinality) (scalar : Scalar) (rest : Shape)
  /-- A field with at most one record of another shape. -/
  | nested (name : String) (tag : Nat) (inner : Shape) (rest : Shape)
deriving Repr, DecidableEq

/-- The values of a scalar type. -/
abbrev Scalar.Value : Scalar → Type
  | string => String
  | bool => Bool
  | int32 => Int32
  | int64 => Int64
  | uint64 => UInt64
  | sint64 => Int64
  | fixed32 => UInt32

/-- The contents of a field whose single values have type `α`. -/
abbrev Cardinality.Content (α : Type) : Cardinality → Type
  | one => α
  | atMostOne => Option α
  | many => List α

/-- The records of a shape. -/
abbrev Shape.Record : Shape → Type
  | done => Unit
  | field _ _ cardinality scalar rest => cardinality.Content scalar.Value × rest.Record
  | nested _ _ inner rest => Option inner.Record × rest.Record

instance Scalar.decidableEqValue : (s : Scalar) → DecidableEq s.Value
  | string => inferInstanceAs (DecidableEq String)
  | bool => inferInstanceAs (DecidableEq Bool)
  | int32 => inferInstanceAs (DecidableEq Int32)
  | int64 => inferInstanceAs (DecidableEq Int64)
  | uint64 => inferInstanceAs (DecidableEq UInt64)
  | sint64 => inferInstanceAs (DecidableEq Int64)
  | fixed32 => inferInstanceAs (DecidableEq UInt32)

instance Cardinality.decidableEqContent (α : Type) [DecidableEq α] :
    (c : Cardinality) → DecidableEq (c.Content α)
  | one => inferInstanceAs (DecidableEq α)
  | atMostOne => inferInstanceAs (DecidableEq (Option α))
  | many => inferInstanceAs (DecidableEq (List α))

instance Shape.decidableEqRecord : (s : Shape) → DecidableEq s.Record
  | done => inferInstanceAs (DecidableEq Unit)
  | field _ _ c s rest =>
    have : DecidableEq (c.Content s.Value) := inferInstance
    have : DecidableEq rest.Record := decidableEqRecord rest
    inferInstanceAs (DecidableEq (_ × _))
  | nested _ _ inner rest =>
    have : DecidableEq inner.Record := decidableEqRecord inner
    have : DecidableEq rest.Record := decidableEqRecord rest
    inferInstanceAs (DecidableEq (_ × _))

/-! ### Defaults -/

/-- The value of a field that was not written. -/
def Scalar.default : (s : Scalar) → s.Value
  | string => ""
  | bool => false
  | int32 => 0
  | int64 => 0
  | uint64 => 0
  | sint64 => 0
  | fixed32 => 0

/-- The content of a field that was not written. -/
def Cardinality.default {α : Type} (value : α) : (c : Cardinality) → c.Content α
  | one => value
  | atMostOne => none
  | many => []

/-- The record with nothing written. -/
def Shape.default : (s : Shape) → s.Record
  | done => ()
  | field _ _ c s rest => (c.default s.default, rest.default)
  | nested _ _ _ rest => (none, rest.default)

/-- The names of the fields in order. -/
def Shape.fieldNames : Shape → List String
  | done => []
  | field name _ _ _ rest => name :: rest.fieldNames
  | nested name _ _ rest => name :: rest.fieldNames

end WireSchemas
