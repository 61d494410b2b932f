import WireSchemas.Proofs.SortedMap
import WireSchemas.TypeCache

/-!
# The two directions of the type cache

The types of the schemas and the schemas of the types are inverses of each other, and binding
keeps them so: `Inverse.bind`.  Binding a schema to the type it has changes nothing.
-/

namespace WireSchemas.TypeCache

/-- A schema is among those of a type exactly when it is bound to that type. -/
def Inverse (c : TypeCache) : Prop :=
  ∀ schema type, c.type? schema = some type ↔ schema ∈ c.bound type

/-- The schemas of a type, none if it was never bound. -/
def schemaSet (schemas : SortedMap MessageType SchemaSet) (type : MessageType) : SchemaSet :=
  (schemas.get? type).getD .empty

theorem mem_bound_iff {c : TypeCache} {schema : SchemaInfo} {type : MessageType} :
  schema ∈ c.bound type ↔ ((schemaSet c.schemas type).get? schema).isSome
  := SortedMap.mem_keys_iff _ _

theorem schemaSet_insert (schemas : SortedMap MessageType SchemaSet) (type type' : MessageType)
    (set : SchemaSet) :
  schemaSet (schemas.insert type set) type' = if type = type' then set else schemaSet schemas type'
  := by
  by_cases h : type = type'
  · simp [schemaSet, h]
  · simp [schemaSet, h, SortedMap.get?_insert_of_ne]

/-! ### Binding -/

theorem type?_bind (c : TypeCache) (type : MessageType) (schema schema' : SchemaInfo) :
  (c.bind type schema).type? schema' = if schema = schema' then some type else c.type? schema'
  := by
  by_cases h : schema = schema'
  · simp [type?, bind, h]
  · simp [type?, bind, h, SortedMap.get?_insert_of_ne]

/-- Only the schema that changes its type is released, and only by its former type. -/
theorem get?_schemaSet_released (schemas : SortedMap MessageType SchemaSet)
    (former : Option MessageType) (type type' : MessageType) (schema schema' : SchemaInfo) :
  (schemaSet (released schemas former type schema) type').get? schema' =
    if former = some type' ∧ type' ≠ type ∧ schema' = schema then none
    else (schemaSet schemas type').get? schema'
  := by
  cases former with
  | none => simp [released]
  | some t =>
    by_cases ht : t = type
    · grind [released]
    · cases hset : schemas.get? t with
      | none => grind [released, schemaSet, SortedMap.get?_empty]
      | some set =>
        simp only [released, ht, hset, if_false, schemaSet_insert]
        by_cases hs : schema' = schema
        · subst hs
          have := SortedMap.get?_erase_self set schema'
          grind [schemaSet]
        · have := SortedMap.get?_erase_of_ne set hs
          grind [schemaSet]

theorem schemas_bind (c : TypeCache) (type : MessageType) (schema : SchemaInfo) :
  (c.bind type schema).schemas =
    (released c.schemas (c.type? schema) type schema).insert type
      ((schemaSet (released c.schemas (c.type? schema) type schema) type).insert schema ())
  := rfl

theorem get?_schemaSet_bind (c : TypeCache) (type type' : MessageType)
    (schema schema' : SchemaInfo) :
  (schemaSet (c.bind type schema).schemas type').get? schema' =
    if schema' = schema ∧ type' = type then some ()
    else if schema' = schema ∧ c.type? schema = some type' then none
    else (schemaSet c.schemas type').get? schema'
  := by
  have hr := get?_schemaSet_released c.schemas (c.type? schema) type type' schema schema'
  rw [schemas_bind, schemaSet_insert]
  by_cases ht : type = type'
  · subst ht
    by_cases hs : schema' = schema
    · simp [hs]
    · rw [if_pos rfl, SortedMap.get?_insert_of_ne _ _ (Ne.symm hs), hr]
      simp [hs]
  · rw [if_neg ht, hr]
    grind

theorem mem_bound_bind_of_ne (c : TypeCache) (type type' : MessageType)
    {schema schema' : SchemaInfo} (h : schema' ≠ schema) :
  schema' ∈ (c.bind type schema).bound type' ↔ schema' ∈ c.bound type'
  := by
  simp [mem_bound_iff, get?_schemaSet_bind, h]

theorem mem_bound_bind_self (c : TypeCache) (type : MessageType) (schema : SchemaInfo) :
  schema ∈ (c.bind type schema).bound type
  := by
  simp [mem_bound_iff, get?_schemaSet_bind]

theorem inverse_empty :
  empty.Inverse
  := by
  intro schema type
  simp [type?, empty, bound, SortedMap.keys, SortedMap.empty, SortedMap.get?, SortedMap.lookup]

/-- A binding keeps the two directions inverse, also when it takes a schema from another type. -/
theorem Inverse.bind {c : TypeCache} (h : c.Inverse) (type : MessageType) (schema : SchemaInfo) :
  (c.bind type schema).Inverse
  := by
  intro schema' type'
  rw [type?_bind]
  by_cases hs : schema = schema'
  · subst hs
    by_cases ht : type' = type
    · simp [ht, mem_bound_bind_self]
    · have hfree : schema ∈ c.bound type' → c.type? schema = some type' := (h schema type').2
      simp only [mem_bound_iff] at hfree ⊢
      grind [get?_schemaSet_bind]
  · rw [if_neg hs, mem_bound_bind_of_ne c type type' (Ne.symm hs)]
    apply h

/-- After a binding the schemas of a type are those it had, but for the one that is bound. -/
theorem Inverse.mem_bound_bind {c : TypeCache} (h : c.Inverse) {type type' : MessageType}
    {schema schema' : SchemaInfo} :
  schema' ∈ (c.bind type schema).bound type' ↔
    if schema = schema' then type = type' else schema' ∈ c.bound type'
  := by
  rw [← h.bind type schema schema' type', type?_bind]
  split
  · simp
  · apply h

/-- A schema that is bound to a type already can be bound to it again at will. -/
theorem bind_eq_self {c : TypeCache} {type : MessageType} {schema : SchemaInfo}
    (htype : c.type? schema = some type) (hbound : schema ∈ c.bound type) :
  c.bind type schema = c
  := by
  obtain ⟨types, schemas⟩ := c
  have hget : types.get? schema = some type := htype
  have hr : released schemas (types.get? schema) type schema = schemas := by
    simp [released, hget]
  have hset : ((schemas.get? type).getD .empty).get? schema = some () := by
    obtain ⟨_, hset⟩ := Option.isSome_iff_exists.1 (mem_bound_iff.1 hbound)
    apply hset
  have hsome : schemas.get? type = some ((schemas.get? type).getD .empty) := by
    cases hg : schemas.get? type with
    | none => simp [hg] at hset
    | some set => rfl
  simp only [TypeCache.bind, hr, mk.injEq]
  constructor
  · apply SortedMap.insert_eq_self hget
  · rw [SortedMap.insert_eq_self hset]
    apply SortedMap.insert_eq_self hsome

theorem bind_bind_self (c : TypeCache) (type : MessageType) (schema : SchemaInfo) :
  (c.bind type schema).bind type schema = c.bind type schema
  := by
  apply bind_eq_self
  · simp [type?_bind]
  · apply mem_bound_bind_self

/-! ### Subjects -/

theorem subject?_eq_some {c : TypeCache} {type : MessageType} {format : DataFormat}
    {subject : String} (h : c.subject? type format = some subject) :
  (⟨subject, format⟩ : SchemaInfo) ∈ c.bound type
  := by
  obtain ⟨schema, hfind, rfl⟩ := Option.map_eq_some_iff.1 h
  obtain rfl : schema.format = format := by simpa using List.find?_some hfind
  apply List.mem_of_find?_eq_some hfind

theorem subject?_eq_none_iff {c : TypeCache} {type : MessageType} {format : DataFormat} :
  c.subject? type format = none ↔ ∀ schema ∈ c.bound type, schema.format ≠ format
  := by
  simp [subject?]

/-- The first schema that a type gets in a format is the one found for it. -/
theorem subject?_bind_of_eq_none {c : TypeCache} {type : MessageType} {schema : SchemaInfo}
    (h : c.subject? type schema.format = none) :
  (c.bind type schema).subject? type schema.format = some schema.name
  := by
  cases hs : (c.bind type schema).subject? type schema.format with
  | none =>
    apply absurd rfl (subject?_eq_none_iff.1 hs schema (mem_bound_bind_self c type schema))
  | some subject =>
    by_cases he : (⟨subject, schema.format⟩ : SchemaInfo) = schema
    · rw [← he]
    · have hmem := (mem_bound_bind_of_ne c type type he).1 (subject?_eq_some hs)
      apply absurd rfl (subject?_eq_none_iff.1 h ⟨subject, schema.format⟩ hmem)

end WireSchemas.TypeCache
