/-!
# Names of the naming strategies

A configuration names a strategy by one of four words.
-/

namespace WireSchemas.Naming

/-- The strategy that a configuration asks for. -/
inductive StrategyName where
  | message
  | category
  | scope
  | scopeCategory
deriving Repr, DecidableEq, Inhabited

namespace StrategyName

/-- All strategies. -/
def all : List StrategyName :=
  [message, category, scope, scopeCategory]

/-- The name used in configuration. -/
def name : StrategyName → String
  | message => "message"
  | category => "category"
  | scope => "namespace"
  | scopeCategory => "namespace_category"

/-- The name used on the command line. -/
def optionName : StrategyName → String
  | message => "message"
  | category => "category"
  | scope => "namespace"
  | scopeCategory => "namespace-category"

/-- The name shown in messages. -/
def label : StrategyName → String
  | message => "Message"
  | category => "Category"
  | scope => "Namespace"
  | scopeCategory => "NamespaceCategory"

/-- The strategy of a configuration name. -/
def ofName? (name : String) : Option StrategyName :=
  all.find? fun k => k.name == name

/-- The strategy of a command line name. -/
def ofOptionName? (name : String) : Option StrategyName :=
  all.find? fun k => k.optionName == name

end StrategyName

end WireSchemas.Naming
