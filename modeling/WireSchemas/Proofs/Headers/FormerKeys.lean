import WireSchemas.Proofs.DataFormat
import WireSchemas.Proofs.Headers.Edits
import WireSchemas.Proofs.Headers.Schema

/-!
# Former keys of the schema

The schema name and the data format are read apart from each other, each from its present key and,
where that gives nothing, from its former one: `schema_survives`.  So headers that have the former
keys alone carry the same schema as with the keys of today.
-/

namespace WireSchemas

namespace Headers

/-- The text of a key denotes a format. -/
def Denotes (h : Headers) (key : String) (f : DataFormat) : Prop :=
  ∃ s, h.text? key = some s ∧ f.DenotedBy s

/-- Headers with the value of one key under another. -/
def moveKey (h : Headers) (former key : String) : Headers :=
  match h.get? former with
  | none => h
  | some value => set (h.erase former) key value

/-- Headers with their former keys replaced by the present ones. -/
def updated (h : Headers) : Headers :=
  (h.moveKey formerNameKey schemaNameKey).moveKey formerFormatKey dataFormatKey

theorem get?_moveKey (h : Headers) {former key : String} (hne : former ≠ key) (key' : String) :
  (h.moveKey former key).get? key' =
    if key' = key then (h.get? former).or (h.get? key)
    else if key' = former then none else h.get? key'
  := by
  rw [moveKey]
  cases hget : h.get? former with
  | none =>
    by_cases hkey : key' = key
    · simp [hkey]
    · by_cases hformer : key' = former <;> simp [hkey, hformer, hget, hne]
  | some value =>
    rw [get?_set]
    by_cases hkey : key' = key
    · simp [hkey]
    · by_cases hformer : key' = former
      · simp [hformer, hne, hne.symm, SortedMap.get?_erase_self]
      · simp [hkey, Ne.symm hkey, hformer, SortedMap.get?_erase_of_ne h hformer]

/-! ### What a key gives -/

theorem text?_erase_self (h : Headers) (key : String) :
  text? (h.erase key) key = none
  := by
  simp [text?, SortedMap.get?_erase_self]

theorem text?_erase_of_ne (h : Headers) {key key' : String} (hne : key' ≠ key) :
  text? (h.erase key) key' = h.text? key'
  := by
  simp [text?, SortedMap.get?_erase_of_ne h hne]

theorem text?_withoutSchemaInfo (h : Headers) :
  ∀ key ∈ schemaKeys, h.withoutSchemaInfo.text? key = none
  := by
  intro key hkey
  simp [text?, withoutSchemaInfo, SortedMap.get?_filter, isSchemaKey, hkey]

theorem parseD_congr {α : Type} {h h' : Headers} {key key' : String}
    (htext : h.text? key = h'.text? key') (read : String → Except Failure α) (default : α) :
  h.parseD key read default = h'.parseD key' read default
  := by
  rw [parseD, parseD, htext]

theorem parseD_of_denotes {h : Headers} {key : String} {f : DataFormat} (hf : h.Denotes key f)
    (default : DataFormat) :
  h.parseD key DataFormat.parse default = f
  := by
  obtain ⟨s, hs, hdenoted⟩ := hf
  simp [parseD, hs, DataFormat.parse_eq_ok_iff.2 hdenoted, Except.toOption]

theorem parseD_of_not_denotes {h : Headers} {key : String} (hf : ∀ f, ¬ h.Denotes key f)
    (default : DataFormat) :
  h.parseD key DataFormat.parse default = default
  := by
  rw [parseD]
  cases htext : h.text? key with
  | none => rfl
  | some s =>
    cases hparse : DataFormat.parse s with
    | error f => simp [hparse, Except.toOption]
    | ok f => cases hf f ⟨s, htext, DataFormat.parse_eq_ok_iff.1 hparse⟩

theorem not_denotes_of_text?_eq_none {h : Headers} {key : String} (hnone : h.text? key = none)
    (f : DataFormat) :
  ¬ h.Denotes key f
  := by
  rintro ⟨s, hs, -⟩
  cases hnone.symm.trans hs

/-! ### The schema info of headers -/

variable {h : Headers}

/-- The schema name is the text of the present key, or of the former one if that has none. -/
theorem name_ofHeaders (h : Headers) :
  (SchemaInfo.ofHeaders h).name = ((h.text? schemaNameKey).or (h.text? formerNameKey)).getD ""
  := by
  simp only [SchemaInfo.ofHeaders, textD]
  cases h.text? schemaNameKey <;> rfl

/-- A format that the present key gives is the format. -/
theorem format_ofHeaders_of_denotes {f : DataFormat} (hf : h.Denotes dataFormatKey f) :
  (SchemaInfo.ofHeaders h).format = f
  := parseD_of_denotes hf _

/-- If the present key gives no format, the former one is read. -/
theorem format_ofHeaders_of_not_denotes (hf : ∀ f, ¬ h.Denotes dataFormatKey f) :
  (SchemaInfo.ofHeaders h).format = h.parseD formerFormatKey DataFormat.parse .unspecified
  := parseD_of_not_denotes hf _

/-- A null under the present name key counts as no entry. -/
theorem ofHeaders_erase_name (hname : h.text? schemaNameKey = none) :
  SchemaInfo.ofHeaders (h.erase schemaNameKey) = SchemaInfo.ofHeaders h
  := by
  simp +decide [SchemaInfo.ofHeaders, textD, parseD, hname, text?_erase_self, text?_erase_of_ne]

/-- What is no format under the present format key counts as no entry. -/
theorem ofHeaders_erase_format (hformat : ∀ f, ¬ h.Denotes dataFormatKey f) :
  SchemaInfo.ofHeaders (h.erase dataFormatKey) = SchemaInfo.ofHeaders h
  := by
  have hname : schemaNameKey ≠ dataFormatKey := by decide
  have hformerName : formerNameKey ≠ dataFormatKey := by decide
  have hformer : formerFormatKey ≠ dataFormatKey := by decide
  have herased := not_denotes_of_text?_eq_none (text?_erase_self h dataFormatKey)
  rw [SchemaInfo.mk.injEq, name_ofHeaders, name_ofHeaders, text?_erase_of_ne h hname,
    text?_erase_of_ne h hformerName, format_ofHeaders_of_not_denotes hformat,
    format_ofHeaders_of_not_denotes herased]
  exact ⟨rfl, parseD_congr (text?_erase_of_ne h hformer) _ _⟩

/-- Headers without the present keys carry the schema that they carry with the former keys put in
their place. -/
theorem ofHeaders_updated (hname : h.get? schemaNameKey = none)
    (hformat : h.get? dataFormatKey = none) :
  SchemaInfo.ofHeaders h.updated = SchemaInfo.ofHeaders h
  := by
  have hmoved : h.updated.text? schemaNameKey = h.text? formerNameKey ∧
      h.updated.text? formerNameKey = none ∧
      h.updated.text? dataFormatKey = h.text? formerFormatKey ∧
      h.updated.text? formerFormatKey = none := by
    simp +decide [text?, updated, get?_moveKey, hname, hformat]
  obtain ⟨hpresentName, hformerName, hpresentFormat, hformerFormat⟩ := hmoved
  have hnoName : h.text? schemaNameKey = none := by simp [text?, hname]
  have hnoFormat : h.text? dataFormatKey = none := by simp [text?, hformat]
  simp only [SchemaInfo.ofHeaders, textD, parseD, hpresentName, hformerName, hpresentFormat,
    hformerFormat, hnoName, hnoFormat, Option.getD_none]

/-- Whatever entries headers have for the schema, a schema info that is written into them is read
back from them, and no other key changes.  The name and the format are read apart from each other.
What the present key gives counts; without a text there, or for the format without one that
denotes a format, it is as if the key was not there and the former key counts; and if that gives
nothing either, the name is empty and the format unspecified.  Former keys carry the same schema
under the names of the present ones, if those are not there, and headers without all of these keys
carry none. -/
theorem schema_survives (h : Headers) :
  let info := SchemaInfo.ofHeaders h
  (∀ info', SchemaInfo.ofHeaders (h.withSchemaInfo info') = info' ∧
    ∀ key, key ≠ schemaNameKey → key ≠ dataFormatKey →
      (h.withSchemaInfo info').get? key = h.get? key) ∧
  (h.get? schemaNameKey = none → h.get? dataFormatKey = none →
    SchemaInfo.ofHeaders h.updated = info) ∧
  (h.text? schemaNameKey = none → SchemaInfo.ofHeaders (h.erase schemaNameKey) = info) ∧
  ((∀ f, ¬ h.Denotes dataFormatKey f) → SchemaInfo.ofHeaders (h.erase dataFormatKey) = info) ∧
  info.name = ((h.text? schemaNameKey).or (h.text? formerNameKey)).getD "" ∧
  (∀ f, h.Denotes dataFormatKey f → info.format = f) ∧
  ((∀ f, ¬ h.Denotes dataFormatKey f) →
    (∀ f, h.Denotes formerFormatKey f → info.format = f) ∧
    ((∀ f, ¬ h.Denotes formerFormatKey f) → info.format = .unspecified)) ∧
  SchemaInfo.ofHeaders h.withoutSchemaInfo = .none
  := by
  intro info
  refine ⟨?_, ofHeaders_updated, ofHeaders_erase_name, ofHeaders_erase_format, name_ofHeaders h,
    fun f => format_ofHeaders_of_denotes, ?_, ?_⟩
  · intro info'
    refine ⟨SchemaInfo.ofHeaders_withSchemaInfo h info', ?_⟩
    intro key hname hformat
    rw [withSchemaInfo, get?_set, if_neg hformat.symm, get?_setSchemaName_of_ne h _ hname]
  · intro hpresent
    rw [format_ofHeaders_of_not_denotes hpresent]
    exact ⟨fun f hf => parseD_of_denotes hf _, fun hf => parseD_of_not_denotes hf _⟩
  · have hnone := text?_withoutSchemaInfo h
    simp only [schemaKeys, List.forall_mem_cons] at hnone
    simp [SchemaInfo.ofHeaders, textD, parseD, hnone, SchemaInfo.none]

/-- A null beside a former name that is blank, and a text that denotes no format beside the number
of one. -/
def mixedHeaders : Headers :=
  SortedMap.ofList [(schemaNameKey, none), (formerNameKey, some " "),
    (dataFormatKey, some "xml"), (formerFormatKey, some "\u00A02\t")]

theorem mixedHeaders_survive :
  let formerHeaders : Headers := SortedMap.ofList
    [(formerNameKey, some "users"), (formerFormatKey, some "Json"), ("trace", none)]
  SchemaInfo.ofHeaders mixedHeaders = ⟨" ", .protobuf⟩ ∧
    SchemaInfo.ofHeaders (SortedMap.erase mixedHeaders schemaNameKey) = ⟨" ", .protobuf⟩ ∧
    SchemaInfo.ofHeaders formerHeaders.updated = ⟨"users", .json⟩
  := by
  intro formerHeaders
  have hunread : ∀ f, ¬ mixedHeaders.Denotes dataFormatKey f := by
    rintro f ⟨s, hs, hdenoted⟩
    obtain rfl : s = "xml" := (Option.some.inj hs).symm
    revert hdenoted
    cases f <;> decide +kernel
  have hformer : mixedHeaders.Denotes formerFormatKey .protobuf :=
    ⟨"\u00A02\t", rfl, by decide +kernel⟩
  obtain ⟨-, -, herased, -, hname, -, hformat, -⟩ := schema_survives mixedHeaders
  have hinfo : SchemaInfo.ofHeaders mixedHeaders = ⟨" ", .protobuf⟩ := by
    rw [SchemaInfo.mk.injEq]
    exact ⟨hname, (hformat hunread).1 _ hformer⟩
  refine ⟨hinfo, (herased rfl).trans hinfo, ?_⟩
  obtain ⟨-, hupdated, -⟩ := schema_survives formerHeaders
  rw [hupdated rfl rfl]
  decide +kernel

end Headers

end WireSchemas
