import WireSchemas.Settings

/-!
# Names and settings in JSON

The JSON forms of the words that configurations use, of schema infos and of settings.  Names are
exact.  Every setting may be left out and then has its default.
-/

namespace WireSchemas

/-- The value of a name in JSON. -/
def Json.named? {α : Type} (ofName? : String → Option α) (j : Json) : Option α :=
  j.alternative?.bind ofName?

/-- The value of a field, or a default when it is not there. -/
def Json.fieldD? {α : Type} (read : Json → Option α) (default : α) : Option Json → Option α
  | none => some default
  | some j => read j

namespace SchemaInfo

/-- The JSON text of a schema info. -/
def toJson (i : SchemaInfo) : String :=
  String.ofList <| Json.objectText
    [("schema_name", Json.quoted i.name), ("data_format", Json.quoted i.format.name)]

/-- The schema info that a JSON value describes. -/
def ofJson? (j : Json) : Option SchemaInfo := do
  let fields ← Json.fields? ["schema_name", "data_format"] j
  match fields.values with
  | [some name, some format] =>
    return ⟨← name.text?, ← format.named? DataFormat.ofName?⟩
  | _ => .none

end SchemaInfo

namespace Settings

/-- The JSON text of settings. -/
def toJson (s : Settings) : String :=
  let registry := Json.objectText
    [("auto_register", Json.boolText s.registry.autoRegister),
     ("formats", Json.arrayText (s.registry.formats.map fun f => Json.quoted f.name))]
  let naming := Json.objectText
    [("strategy", Json.quoted s.naming.strategy.name),
     ("namespace_id", Json.nullableText s.naming.scope),
     ("output_format", Json.quoted s.naming.output.name)]
  String.ofList (Json.objectText [("registry", registry), ("naming", naming)])

/-- The settings of a registry in JSON. -/
def registryOfJson? (j : Json) : Option RegistrySettings := do
  let fields ← Json.fields? ["auto_register", "formats"] j
  let default : RegistrySettings := {}
  match fields.values with
  | [autoRegister, formats] =>
    return {
      autoRegister := ← Json.fieldD? Json.bool? default.autoRegister autoRegister
      formats := ← Json.fieldD? (Json.list? (Json.named? DataFormat.ofName?)) default.formats
        formats }
  | _ => none

/-- The settings of names in JSON. -/
def namingOfJson? (j : Json) : Option NamingSettings := do
  let fields ← Json.fields? ["strategy", "namespace_id", "output_format"] j
  let default : NamingSettings := {}
  match fields.values with
  | [strategy, scope, output] =>
    return {
      strategy := ← Json.fieldD? (Json.named? Naming.StrategyName.ofName?) default.strategy strategy
      scope := ← Json.fieldD? (Json.nullable? Json.text?) default.scope scope
      output := ← Json.fieldD? (Json.named? Naming.OutputFormat.ofName?) default.output output }
  | _ => none

/-- The settings that a JSON value describes. -/
def ofJson? (j : Json) : Option Settings := do
  let fields ← Json.fields? ["registry", "naming"] j
  match fields.values with
  | [registry, naming] =>
    return {
      registry := ← Json.fieldD? registryOfJson? {} registry
      naming := ← Json.fieldD? namingOfJson? {} naming }
  | _ => none

end Settings

end WireSchemas
