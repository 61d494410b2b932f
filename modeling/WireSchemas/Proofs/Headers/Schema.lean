import WireSchemas.Headers.Schema
import WireSchemas.Proofs.SortedMap

/-!
# The schema that headers carry

A schema name that is written into headers is the one read from them, and nothing else changes.
A schema info that is written whole is read back, whatever other headers there are.
-/

namespace WireSchemas

namespace Headers

@[simp]
theorem text?_set_self (h : Headers) (key : String) (value : Option String) :
  (h.set key value).text? key = value
  := by
  simp [text?, set]

theorem text?_set_of_ne (h : Headers) {key key' : String} (value : Option String)
    (hne : key ≠ key') :
  (h.set key value).text? key' = h.text? key'
  := by
  simp [text?, set, SortedMap.get?_insert_of_ne h value hne]

theorem get?_setSchemaName_of_ne (h : Headers) {key : String} (name : String)
    (hne : key ≠ schemaNameKey) :
  (h.setSchemaName name).get? key = h.get? key
  := SortedMap.get?_insert_of_ne h (some name) hne.symm

end Headers

theorem SchemaInfo.ofHeaders_setSchemaName (h : Headers) (name : String) :
  ofHeaders (h.setSchemaName name) = ⟨name, (ofHeaders h).format⟩
  := by
  have hformat : Headers.schemaNameKey ≠ Headers.dataFormatKey := by decide
  have hformer : Headers.schemaNameKey ≠ Headers.formerFormatKey := by decide
  simp [ofHeaders, Headers.textD, Headers.parseD, Headers.setSchemaName,
    Headers.text?_set_of_ne h _ hformat, Headers.text?_set_of_ne h _ hformer]

theorem DataFormat.parse_name (f : DataFormat) :
  parse f.name = .ok f
  := by
  have hread : ofNameOrNumber? (Text.lowerAscii (Text.trim f.name)) = some f := by
    cases f <;> decide +kernel
  simp only [parse, hread]

theorem SchemaInfo.ofHeaders_withSchemaInfo (h : Headers) (info : SchemaInfo) :
  ofHeaders (h.withSchemaInfo info) = info
  := by
  have hname : Headers.dataFormatKey ≠ Headers.schemaNameKey := by decide
  simp [ofHeaders, Headers.textD, Headers.parseD, Headers.withSchemaInfo, Headers.setSchemaName,
    Headers.text?_set_of_ne _ _ hname, DataFormat.parse_name, Except.toOption]

end WireSchemas
