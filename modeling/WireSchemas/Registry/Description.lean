import WireSchemas.Registry
import WireSchemas.Text.Quoted

/-!
# Descriptions of registries

One line of text about the settings of a registry and the size of its cache, for logs.
-/

namespace WireSchemas

/-- The text shown for a scope rule. -/
def Naming.ScopeRule.describe : Naming.ScopeRule → String
  | message => "Message"
  | category => "Category"
  | scope id => "Namespace(" ++ Text.quote id.text ++ ")"
  | scopeCategory id => "NamespaceCategory(" ++ Text.quote id.text ++ ")"

/-- The text shown for a subject rule. -/
def Naming.SubjectRule.describe : Naming.SubjectRule → String
  | fullName => "MessageSubjectName"
  | strategy s =>
    "SchemaNameStrategy \x7b kind: " ++ s.rule.describe ++ ", format: " ++ s.output.label
      ++ " \x7d"

namespace Registry

/-- The text shown for a registry. -/
def describe (r : Registry) : String :=
  "SchemaResolver \x7b options: SchemaRegistryOptions \x7b subject_name_strategy: "
    ++ r.options.subjectRule.describe ++ ", auto_register: "
    ++ (if r.options.autoRegister then "true" else "false") ++ " \x7d, cached_types: "
    ++ Text.integerText r.cache.size ++ ", .. \x7d"

/-- The text shown for a serializer. -/
def describeCodec (c : Codec) : String :=
  "SchemaSerializer(" ++ c.format.name ++ ")"

end Registry

end WireSchemas
