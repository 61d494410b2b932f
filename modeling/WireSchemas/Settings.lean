import WireSchemas.Registry

/-!
# Settings

What a configuration decides: which serializers a registry has, whether it registers unseen types,
and how it names schemas.  Settings make a registry when their naming is complete and each of
their formats has a built-in serializer.
-/

namespace WireSchemas

/-- The settings of a registry. -/
structure RegistrySettings where
  autoRegister : Bool := true
  /-- The formats to install serializers for. -/
  formats : List DataFormat := [.bytes, .json, .protobuf]
deriving Repr, DecidableEq

/-- The settings of names. -/
structure NamingSettings where
  strategy : Naming.StrategyName := .message
  /-- The fixed scope, which two of the strategies need. -/
  scope : Option String := none
  output : Naming.OutputFormat := .none
deriving Repr, DecidableEq

/-- All settings. -/
structure Settings where
  registry : RegistrySettings := {}
  naming : NamingSettings := {}
deriving Repr, DecidableEq

instance : Inhabited Settings := ⟨{}⟩

/-- The naming strategy that the settings describe. -/
def NamingSettings.toStrategy (n : NamingSettings) : Except Failure Naming.Strategy :=
  match n.strategy, n.scope with
  | .scope, none => .error (.invalidInput (.scopeRequired .scope))
  | .scopeCategory, none => .error (.invalidInput (.scopeRequired .scopeCategory))
  | name, scope => Naming.Strategy.ofName name (scope.getD "") n.output

namespace Settings

/-- The options of a registry with these settings. -/
def options (s : Settings) : Except Failure Options :=
  s.naming.toStrategy.map fun strategy => ⟨.strategy strategy, s.registry.autoRegister⟩

/-- The registry with built-in serializers for a list of formats. -/
def install (r : Registry) : List DataFormat → Except Failure Registry
  | [] => .ok r
  | f :: rest =>
    match Codec.builtIn? f with
    | some c => install (r.withCodec c) rest
    | none => .error (.invalidInput (.noBuiltInSerializer f))

/-- The registry that the settings describe. -/
def toRegistry (s : Settings) : Except Failure Registry := do
  install (.new (← s.options)) s.registry.formats

end Settings

end WireSchemas
