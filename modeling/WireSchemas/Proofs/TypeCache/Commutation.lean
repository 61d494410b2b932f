import WireSchemas.Proofs.TypeCache.LastBinding

/-!
# Bindings of different schemas

A binding leaves the subject of a type as it was unless it takes that subject away or gives the type
one that comes before it.  Two bindings of different schemas may be made in either order.
-/

namespace WireSchemas.TypeCache

open Text

variable {c : TypeCache} {type type' : MessageType} {schema schema' : SchemaInfo}
  {format : DataFormat} {subject : String}

/-! ### Subjects after a binding -/

/-- A subject stays the one found for a type when it is not bound to another type and none before it
is bound to this one. -/
theorem subject?_bind_eq_some (hc : c.Inverse) (h : c.subject? type' format = some subject)
    (hkept : schema = ⟨subject, format⟩ → type = type')
    (hleast : type = type' → schema.format = format →
      Utf8.encode subject ≤ Utf8.encode schema.name) :
  (c.bind type schema).subject? type' format = some subject
  := by
  rw [subject?_eq_some_iff] at h ⊢
  simp only [hc.mem_bound_bind]
  constructor
  · split
    · next hschema => apply hkept hschema
    · apply h.1
  · intro other hother
    split at hother
    · next hschema =>
      obtain rfl := hschema
      apply hleast hother rfl
    · apply h.2 other hother

theorem subject?_bind_eq_none (hc : c.Inverse) (h : c.subject? type' format = none)
    (htype : type ≠ type') :
  (c.bind type schema).subject? type' format = none
  := by
  rw [subject?_eq_none_iff] at h ⊢
  intro schema' hmem
  rw [hc.mem_bound_bind] at hmem
  split at hmem
  · contradiction
  · apply h schema' hmem

/-! ### Two bindings -/

theorem ext_schemas {m n : SortedMap MessageType SchemaSet}
    (hsome : ∀ type, (m.get? type).isSome = (n.get? type).isSome)
    (hset : ∀ type, schemaSet m type = schemaSet n type) :
  m = n
  := by
  apply SortedMap.ext_get?
  intro type
  have hsome := hsome type
  have hset := hset type
  rw [schemaSet, schemaSet] at hset
  cases hm : m.get? type with
  | none => cases hn : n.get? type <;> simp_all
  | some set => cases hn : n.get? type <;> simp_all

/-- Only the type of a binding gains a set of schemas. -/
theorem isSome_get?_schemas_bind (c : TypeCache) (type type' : MessageType) (schema : SchemaInfo) :
  ((c.bind type schema).schemas.get? type').isSome =
    (decide (type = type') || (c.schemas.get? type').isSome)
  := by
  have hreleased : ∀ former, ((released c.schemas former type schema).get? type').isSome =
      (c.schemas.get? type').isSome := by
    intro former
    cases former with
    | none => rfl
    | some t =>
      rw [released]
      split
      · rfl
      · cases hset : c.schemas.get? t with
        | none => rfl
        | some set =>
          by_cases ht : t = type'
          · simp [← ht, hset]
          · simp [SortedMap.get?_insert_of_ne _ _ ht]
  rw [schemas_bind]
  by_cases ht : type = type'
  · simp [ht]
  · simp [SortedMap.get?_insert_of_ne _ _ ht, hreleased, ht]

/-- Bindings of different schemas may be made in either order, whatever the types. -/
theorem bind_comm (c : TypeCache) (type type' : MessageType) (hne : schema ≠ schema') :
  (c.bind type schema).bind type' schema' = (c.bind type' schema').bind type schema
  := by
  have htypes : ((c.bind type schema).bind type' schema').types =
      ((c.bind type' schema').bind type schema).types := by
    apply SortedMap.ext_get?
    intro key
    change TypeCache.type? _ key = TypeCache.type? _ key
    simp only [type?_bind]
    grind
  have hschemas : ((c.bind type schema).bind type' schema').schemas =
      ((c.bind type' schema').bind type schema).schemas := by
    apply ext_schemas
    · intro owner
      simp only [isSome_get?_schemas_bind]
      grind
    · intro owner
      apply SortedMap.ext_get?
      intro key
      simp only [get?_schemaSet_bind, type?_bind]
      grind
  exact congrArg₂ TypeCache.mk htypes hschemas

end WireSchemas.TypeCache
