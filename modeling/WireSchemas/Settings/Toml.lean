import WireSchemas.Settings
import WireSchemas.Toml.Document
import WireSchemas.Toml.Writer

/-!
# Settings in TOML

The text that settings are saved as, and the settings that configuration data describe.  Names are
read in any case, entries that no setting is called by are ignored, and every setting may be left
out and then has its default.
-/

namespace WireSchemas.Settings

/-! ### Writing -/

/-- The lines of the settings of a registry. -/
def registryLines (r : RegistrySettings) : List Char :=
  Toml.headerLine "registry"
    ++ Toml.pairLine "auto_register" (Toml.boolText r.autoRegister)
    ++ Toml.pairLine "formats" (Toml.listText (r.formats.map fun f => Toml.stringText f.name))

/-- The lines of the settings of names. -/
def namingLines (n : NamingSettings) : List Char :=
  Toml.headerLine "naming"
    ++ Toml.pairLine "strategy" (Toml.stringText n.strategy.name)
    ++ (match n.scope with
      | none => []
      | some scope => Toml.pairLine "namespace_id" (Toml.stringText scope))
    ++ Toml.pairLine "output_format" (Toml.stringText n.output.name)

/-- The text of settings. -/
def toToml (s : Settings) : String :=
  String.ofList (registryLines s.registry ++ '\n' :: namingLines s.naming)

/-! ### Reading -/

/-- The settings of a registry in configuration data. -/
def registryOfDatum? (d : Datum) : Option RegistrySettings := do
  let default : RegistrySettings := {}
  match ← d.fields? ["auto_register", "formats"] with
  | [autoRegister, formats] =>
    return {
      autoRegister := ← Datum.fieldD? Datum.bool? default.autoRegister autoRegister
      formats := ← Datum.fieldD? (Datum.list? (Datum.named? DataFormat.ofName?)) default.formats
        formats }
  | _ => none

/-- The settings of names in configuration data. -/
def namingOfDatum? (d : Datum) : Option NamingSettings := do
  let default : NamingSettings := {}
  match ← d.fields? ["strategy", "namespace_id", "output_format"] with
  | [strategy, scope, output] =>
    return {
      strategy := ←
        Datum.fieldD? (Datum.named? Naming.StrategyName.ofName?) default.strategy strategy
      scope := ← Datum.fieldD? (Datum.optional? Datum.text?) default.scope scope
      output := ←
        Datum.fieldD? (Datum.named? Naming.OutputFormat.ofName?) default.output output }
  | _ => none

/-- The settings that configuration data describe. -/
def ofDatum? (d : Datum) : Option Settings := do
  match ← d.fields? ["registry", "naming"] with
  | [registry, naming] =>
    return {
      registry := ← Datum.fieldD? registryOfDatum? {} registry
      naming := ← Datum.fieldD? namingOfDatum? {} naming }
  | _ => none

end WireSchemas.Settings
