import WireSchemas.Proofs.Toml.Document
import WireSchemas.Settings.Toml

/-!
# Settings in TOML read back

The text of settings is read as the data of the settings, `read?_toToml`, and the settings that
these data describe are the ones the text was written for, `ofDatum?_data`.
-/

namespace WireSchemas.Settings

open Toml

/-! ### The text -/

/-- The line of a header. -/
def headed (key : String) : List Char × List Statement :=
  (headerLine key, [.header ⟨[], key⟩])

/-- The line of a key with a value. -/
def paired (key : String) (value : List Char) (d : Datum) : List Char × List Statement :=
  (pairLine key value, [.pair ⟨[], key⟩ d])

/-- The line of a key with a text. -/
def texted (key : String) (s : String) : List Char × List Statement :=
  paired key (stringText s) (.text s)

/-- The lines that settings are written in. -/
def tomlLines (s : Settings) : List (List Char × List Statement) :=
  [headed "registry",
   paired "auto_register" (boolText s.registry.autoRegister) (.bool s.registry.autoRegister),
   paired "formats" (listText (s.registry.formats.map fun f => stringText f.name))
     (.list (s.registry.formats.map fun f => .text f.name)),
   (['\n'], []),
   headed "naming",
   texted "strategy" s.naming.strategy.name]
    ++ s.naming.scope.toList.map (texted "namespace_id")
    ++ [texted "output_format" s.naming.output.name]

theorem line_texted {key : String} (hkey : Bare key) (s : String) :
  Line (texted key s).1 (texted key s).2
  := .pair hkey (written_text nestingLimit s)

theorem line_of_mem_tomlLines (s : Settings) :
  ∀ l ∈ s.tomlLines, Line l.1 l.2
  := by
  have hformats : Written nestingLimit
      (listText (s.registry.formats.map fun f => stringText f.name))
      (.list (s.registry.formats.map fun f => .text f.name)) :=
    written_list fun f _ => written_text 78 f.name
  intro l hl
  simp only [tomlLines, List.mem_append, List.mem_cons, List.mem_map, List.not_mem_nil,
    or_false] at hl
  rcases hl with ((rfl | rfl | rfl | rfl | rfl | rfl) | ⟨scope, -, rfl⟩) | rfl
  · exact .header (by decide)
  · exact .pair (by decide) (written_bool nestingLimit _)
  · exact .pair (by decide) hformats
  · exact .blank
  · exact .header (by decide)
  · exact line_texted (by decide) _
  · exact line_texted (by decide) _
  · exact line_texted (by decide) _

theorem toToml_eq (s : Settings) :
  s.toToml = String.ofList (s.tomlLines.flatMap Prod.fst)
  := by
  obtain ⟨r, ⟨strategy, scope, output⟩⟩ := s
  cases scope <;> simp [toToml, registryLines, namingLines, tomlLines, headed, paired, texted]

/-! ### The data -/

/-- What settings of names say. -/
def namingData (n : NamingSettings) : List (String × Datum) :=
  (n.scope.toList.map fun scope => ("namespace_id", .text scope))
    ++ [("output_format", .text n.output.name), ("strategy", .text n.strategy.name)]

/-- What settings of a registry say. -/
def registryData (r : RegistrySettings) : List (String × Datum) :=
  [("auto_register", .bool r.autoRegister),
   ("formats", .list (r.formats.map fun f => .text f.name))]

/-- What settings say, in the order of the keys. -/
def data (s : Settings) : List (String × Datum) :=
  [("naming", .table (namingData s.naming)), ("registry", .table (registryData s.registry))]

/-- The text of settings is read as what they say. -/
theorem read?_toToml (s : Settings) :
  Toml.read? s.toToml = some s.data
  := by
  rw [toToml_eq, read?_lines s.line_of_mem_tomlLines]
  obtain ⟨⟨autoRegister, formats⟩, ⟨strategy, scope, output⟩⟩ := s
  cases scope with
  | none => rfl
  | some scope => rfl

theorem named?_formatName (f : DataFormat) :
  Datum.named? DataFormat.ofName? (.text f.name) = some f
  := by
  cases f <;> decide

theorem named?_strategyName (n : Naming.StrategyName) :
  Datum.named? Naming.StrategyName.ofName? (.text n.name) = some n
  := by
  cases n <;> decide

theorem named?_outputName (o : Naming.OutputFormat) :
  Datum.named? Naming.OutputFormat.ofName? (.text o.name) = some o
  := by
  cases o <;> decide

theorem mapM_eq_map {α β : Type} {f : α → Option β} {g : α → β} {l : List α}
    (h : ∀ a ∈ l, f a = some (g a)) :
  l.mapM f = some (l.map g)
  := by
  induction l with
  | nil => rfl
  | cons a l ih =>
    obtain ⟨ha, hl⟩ := List.forall_mem_cons.1 h
    rw [List.mapM_cons, ha, ih hl]
    rfl

theorem list?_formatNames (formats : List DataFormat) :
  Datum.list? (Datum.named? DataFormat.ofName?) (.list (formats.map fun f => .text f.name)) =
    some formats
  := by
  have hread : formats.mapM (fun f => Datum.named? DataFormat.ofName? (.text f.name)) =
      some (formats.map id) :=
    mapM_eq_map fun f _ => named?_formatName f
  rw [List.map_id] at hread
  rw [Datum.list?, List.mapM_map]
  exact hread

theorem registryOfDatum?_data (r : RegistrySettings) :
  registryOfDatum? (.table (registryData r)) = some r
  := by
  have hfields : (Datum.table (registryData r)).fields? ["auto_register", "formats"] =
      some [some (.bool r.autoRegister), some (.list (r.formats.map fun f => .text f.name))] := rfl
  simp only [registryOfDatum?, hfields, Option.bind_eq_bind, Option.bind_some, Datum.fieldD?,
    Datum.bool?, list?_formatNames]
  rfl

theorem namingOfDatum?_data (n : NamingSettings) :
  namingOfDatum? (.table (namingData n)) = some n
  := by
  obtain ⟨strategy, scope, output⟩ := n
  have hstrategy := named?_strategyName strategy
  have houtput := named?_outputName output
  have hfields : (Datum.table (namingData ⟨strategy, scope, output⟩)).fields?
      ["strategy", "namespace_id", "output_format"] =
      some [some (.text strategy.name), scope.map .text, some (.text output.name)] := by
    cases scope <;> rfl
  simp only [namingOfDatum?, hfields, Option.bind_eq_bind, Option.bind_some, Datum.fieldD?,
    hstrategy, houtput]
  cases scope <;> rfl

/-- Settings are what their data describe. -/
theorem ofDatum?_data (s : Settings) :
  ofDatum? (.table s.data) = some s
  := by
  have hregistry := registryOfDatum?_data s.registry
  have hnaming := namingOfDatum?_data s.naming
  have hfields : (Datum.table s.data).fields? ["registry", "naming"] =
      some [some (.table (registryData s.registry)), some (.table (namingData s.naming))] := rfl
  simp only [ofDatum?, hfields, Option.bind_eq_bind, Option.bind_some, Datum.fieldD?, hregistry,
    hnaming]
  rfl

end WireSchemas.Settings
