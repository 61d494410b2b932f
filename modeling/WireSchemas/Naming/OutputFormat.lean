import WireSchemas.Naming.Case

/-!
# Output formats of names

A generated name has two parts, the scope and the local name.  The output format decides how the
two are written and joined.
-/

namespace WireSchemas.Naming

/-- How a scope and a local name are written as one name. -/
inductive OutputFormat where
  | none
  | kebabCase
  | snakeCase
  | urn
deriving Repr, DecidableEq, Inhabited

namespace OutputFormat

/-- All output formats. -/
def all : List OutputFormat :=
  [none, kebabCase, snakeCase, urn]

/-- The name used in configuration. -/
def name : OutputFormat → String
  | none => "none"
  | kebabCase => "kebab_case"
  | snakeCase => "snake_case"
  | urn => "urn"

/-- The name shown among the settings of a strategy. -/
def label : OutputFormat → String
  | none => "None"
  | kebabCase => "KebabCase"
  | snakeCase => "SnakeCase"
  | urn => "Urn"

/-- The output format of a name. -/
def ofName? (name : String) : Option OutputFormat :=
  all.find? fun f => f.name == name

/-- The output format of a name, `kebab` and `snake` being short names. -/
def ofShortName? (s : String) : Option OutputFormat :=
  if s = "kebab" then some kebabCase
  else if s = "snake" then some snakeCase
  else ofName? s

/-- The name made of a scope and a local name. -/
def render (f : OutputFormat) (scope localName : String) : String :=
  match f with
  | none => scope ++ "." ++ localName
  | kebabCase => Naming.kebabCase scope ++ "." ++ Naming.kebabCase localName
  | snakeCase => Naming.snakeCase scope ++ "." ++ Naming.snakeCase localName
  | urn => "urn:" ++ Naming.snakeCase scope ++ ":" ++ Naming.snakeCase localName

end OutputFormat

end WireSchemas.Naming
