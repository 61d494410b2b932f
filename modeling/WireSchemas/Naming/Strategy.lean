import WireSchemas.Naming.OutputFormat
import WireSchemas.Stream

/-!
# Naming strategies

A strategy derives a scope and a local name from a message type and perhaps a stream; its output
format joins the two.  The local name is always that of the type.  A fixed scope is never blank,
which `ScopeId` guarantees.
-/

namespace WireSchemas.Naming

/-- A scope that is not blank. -/
structure ScopeId where
  text : String
  visible : ¬ Text.Blank text
deriving DecidableEq

/-- Where the scope of a name comes from. -/
inductive ScopeRule where
  /-- The scope of the message type. -/
  | message
  /-- The category of the stream. -/
  | category
  /-- A fixed scope. -/
  | scope (id : ScopeId)
  /-- A fixed scope, then the category of the stream. -/
  | scopeCategory (id : ScopeId)
deriving DecidableEq

/-- A rule for the names of schemas. -/
structure Strategy where
  rule : ScopeRule
  output : OutputFormat
deriving DecidableEq

namespace Strategy

instance : Inhabited Strategy := ⟨⟨.message, .none⟩⟩

/-- A scope read from a text that is not blank. -/
def scopeId (text : String) : Except Failure ScopeId :=
  if h : Text.Blank text then .error (.invalidInput (.blank "namespace_id"))
  else .ok ⟨text, h⟩

/-- The strategy of a name, with the text of a fixed scope for those that have one. -/
def ofName (name : StrategyName) (scope : String) (output : OutputFormat) :
    Except Failure Strategy :=
  match name with
  | .message => .ok ⟨.message, output⟩
  | .category => .ok ⟨.category, output⟩
  | .scope => (scopeId scope).map fun id => ⟨.scope id, output⟩
  | .scopeCategory => (scopeId scope).map fun id => ⟨.scopeCategory id, output⟩

/-- Whether names depend on a stream. -/
def requiresStream (s : Strategy) : Bool :=
  match s.rule with
  | .message => false
  | .category => true
  | .scope _ => false
  | .scopeCategory _ => true

/-- The scope of the name of a type in a stream. -/
def scopeFor (s : Strategy) (type : MessageType) (streamName : String) : String :=
  match s.rule with
  | .message => type.scope
  | .category => categoryOf streamName
  | .scope id => id.text
  | .scopeCategory id => id.text ++ "." ++ categoryOf streamName

/-- The name of a type, perhaps within a stream. -/
def schemaName (s : Strategy) (type : MessageType) (streamName : Option String) :
    Except Failure String :=
  let stream := streamName.getD ""
  if type.isMissing then .error (.invalidInput .missingType)
  else if s.requiresStream = true ∧ Text.Blank stream then
    .error (.invalidInput (.blank "stream_name"))
  else .ok (s.output.render (s.scopeFor type stream) type.name)

end Strategy

/-- How a registry derives the subject of a type.  These are the rules of the library; an
application that brings one of its own is not covered. -/
inductive SubjectRule where
  /-- The full name of the type. -/
  | fullName
  /-- The name that a strategy gives. -/
  | strategy (s : Strategy)
deriving DecidableEq

/-- The subject of a type within a stream, which may be none. -/
def SubjectRule.subject (r : SubjectRule) (type : MessageType) (stream : StreamId) :
    Except Failure String :=
  match r with
  | .fullName =>
    if type.isMissing then .error (.invalidInput .missingType) else .ok type.fullName
  | .strategy s => s.schemaName type (if stream.isNone then none else some stream.text)

end WireSchemas.Naming
