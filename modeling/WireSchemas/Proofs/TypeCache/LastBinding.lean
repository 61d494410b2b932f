import Mathlib.Data.List.Dedup
import Mathlib.Data.List.Induction
import WireSchemas.Proofs.Text.Order
import WireSchemas.Proofs.TypeCache

/-!
# The last binding counts

Whatever bindings are made one after the other, the type cache answers as a map from schemas to
types in which the last binding of a schema counts: `last_binding_counts`.  The schemas of a type
are listed by the bytes of their names, then by the numbers of their formats.
-/

namespace WireSchemas

open Text

/-! ### The order of schemas -/

/-- A schema stands before another by the bytes of its name, or by the number of its format when
the names are the same. -/
def SchemaInfo.Precedes (a b : SchemaInfo) : Prop :=
  Utf8.encode a.name < Utf8.encode b.name ∨ a.name = b.name ∧ a.format.number < b.format.number

theorem SchemaInfo.precedes_of_compare {a b : SchemaInfo} (h : compare a b = .lt) :
  a.Precedes b
  := by
  rcases Ordering.then_eq_lt.1 h with hname | ⟨hname, hformat⟩
  · left
    apply Utf8.encode_lt_encode (compareOfLessAndEq_eq_lt.1 hname)
  · right
    exact ⟨Std.LawfulEqCmp.eq_of_compare hname, Nat.compare_eq_lt.1 hformat⟩

/-- Schemas of one format stand in the order of their names. -/
theorem SchemaInfo.Precedes.encode_le {a b : SchemaInfo} (h : a.Precedes b)
    (hformat : a.format = b.format) :
  Utf8.encode a.name ≤ Utf8.encode b.name
  := by
  rcases h with hname | ⟨-, hnumber⟩
  · apply List.le_of_lt hname
  · simp [hformat] at hnumber

namespace TypeCache

theorem pairwise_bound (c : TypeCache) (type : MessageType) :
  (c.bound type).Pairwise SchemaInfo.Precedes
  := (SortedMap.pairwise_keys _).imp SchemaInfo.precedes_of_compare

theorem nodup_bound (c : TypeCache) (type : MessageType) :
  (c.bound type).Nodup
  := SortedMap.nodup_keys _

/-- The schemas of a type in a format are those bound to it that pass the filter. -/
theorem Inverse.mem_schemasOf {c : TypeCache} (h : c.Inverse) {type : MessageType}
    {format : DataFormat} {schema : SchemaInfo} :
  schema ∈ c.schemasOf type format ↔
    c.type? schema = some type ∧ (format = .unspecified ∨ schema.format = format)
  := by
  simp [schemasOf, h schema type]

/-- No subject bound to a type in a format comes before the one that is found. -/
theorem subject?_le {c : TypeCache} {type : MessageType} {format : DataFormat}
    {subject other : String} (h : c.subject? type format = some subject)
    (hother : ⟨other, format⟩ ∈ c.bound type) :
  Utf8.encode subject ≤ Utf8.encode other
  := by
  obtain ⟨schema, hfind, rfl⟩ := Option.map_eq_some_iff.1 h
  obtain ⟨hformat, before, after, hbound, hbefore⟩ := List.find?_eq_some_iff_append.1 hfind
  have hsorted := c.pairwise_bound type
  rw [hbound] at hother hsorted
  obtain ⟨-, hsorted, -⟩ := List.pairwise_append.1 hsorted
  rcases List.mem_append.1 hother with hmem | hmem
  · simpa using hbefore _ hmem
  · rcases List.mem_cons.1 hmem with heq | hmem
    · rw [← heq]
      apply List.le_refl
    · apply ((List.pairwise_cons.1 hsorted).1 _ hmem).encode_le
      simpa using hformat

/-- The subject found for a type in a format is the least of those bound to it. -/
theorem subject?_eq_some_iff {c : TypeCache} {type : MessageType} {format : DataFormat}
    {subject : String} :
  c.subject? type format = some subject ↔
    ⟨subject, format⟩ ∈ c.bound type ∧
      ∀ other, ⟨other, format⟩ ∈ c.bound type → Utf8.encode subject ≤ Utf8.encode other
  := by
  constructor
  · intro h
    exact ⟨subject?_eq_some h, fun other => subject?_le h⟩
  · rintro ⟨hbound, hleast⟩
    cases h : c.subject? type format with
    | none => cases subject?_eq_none_iff.1 h _ hbound rfl
    | some found =>
      have hle := subject?_le h hbound
      have hge := hleast found (subject?_eq_some h)
      rw [le_antisymm (Utf8.encode_le_encode_iff.1 hle) (Utf8.encode_le_encode_iff.1 hge)]

/-! ### Bindings -/

/-- A schema that is bound to a type. -/
structure Binding where
  type : MessageType
  schema : SchemaInfo

/-- The cache after bindings made one after the other. -/
def ofBindings (bs : List Binding) : TypeCache :=
  bs.foldl (fun c b => c.bind b.type b.schema) .empty

/-- The type of the last binding of a schema. -/
def lastType? (bs : List Binding) (schema : SchemaInfo) : Option MessageType :=
  ((bs.filter fun b => b.schema = schema).getLast?).map Binding.type

theorem ofBindings_concat (bs : List Binding) (b : Binding) :
  ofBindings (bs ++ [b]) = (ofBindings bs).bind b.type b.schema
  := List.foldl_concat ..

theorem lastType?_concat (bs : List Binding) (b : Binding) (schema : SchemaInfo) :
  lastType? (bs ++ [b]) schema = if b.schema = schema then some b.type else lastType? bs schema
  := by
  by_cases h : b.schema = schema <;> simp [lastType?, List.filter_append, h]

theorem isSome_lastType?_iff {bs : List Binding} {schema : SchemaInfo} :
  (lastType? bs schema).isSome ↔ schema ∈ bs.map Binding.schema
  := by
  simp [lastType?]

theorem inverse_ofBindings (bs : List Binding) :
  (ofBindings bs).Inverse
  := by
  induction bs using List.reverseRecOn with
  | nil => apply inverse_empty
  | append_singleton bs b ih =>
    rw [ofBindings_concat]
    apply ih.bind

theorem type?_ofBindings (bs : List Binding) (schema : SchemaInfo) :
  (ofBindings bs).type? schema = lastType? bs schema
  := by
  induction bs using List.reverseRecOn with
  | nil => rfl
  | append_singleton bs b ih => rw [ofBindings_concat, type?_bind, lastType?_concat, ih]

theorem mem_bound_ofBindings {bs : List Binding} {schema : SchemaInfo} {type : MessageType} :
  schema ∈ (ofBindings bs).bound type ↔ lastType? bs schema = some type
  := by
  rw [← type?_ofBindings]
  apply (inverse_ofBindings bs schema type).symm

theorem mem_schemasOf_ofBindings {bs : List Binding} {schema : SchemaInfo} {type : MessageType}
    {format : DataFormat} :
  schema ∈ (ofBindings bs).schemasOf type format ↔
    lastType? bs schema = some type ∧ (format = .unspecified ∨ schema.format = format)
  := by
  rw [(inverse_ofBindings bs).mem_schemasOf, type?_ofBindings]

theorem subject?_ofBindings_eq_none_iff {bs : List Binding} {type : MessageType}
    {format : DataFormat} :
  (ofBindings bs).subject? type format = none ↔
    ∀ subject, lastType? bs ⟨subject, format⟩ ≠ some type
  := by
  rw [subject?_eq_none_iff]
  constructor
  · intro h subject hlast
    apply h ⟨subject, format⟩ (mem_bound_ofBindings.2 hlast) rfl
  · rintro h ⟨subject, format'⟩ hmem rfl
    apply h subject (mem_bound_ofBindings.1 hmem)

/-- The subject found for a type in a format is the least of those whose last binding is to it. -/
theorem subject?_ofBindings_eq_some_iff {bs : List Binding} {type : MessageType}
    {format : DataFormat} {subject : String} :
  (ofBindings bs).subject? type format = some subject ↔
    lastType? bs ⟨subject, format⟩ = some type ∧
      ∀ other, lastType? bs ⟨other, format⟩ = some type →
        Utf8.encode subject ≤ Utf8.encode other
  := by
  simp only [subject?_eq_some_iff, mem_bound_ofBindings]

theorem size_ofBindings (bs : List Binding) :
  (ofBindings bs).size = (bs.map Binding.schema).dedup.length
  := by
  have hperm : (ofBindings bs).types.keys.Perm (bs.map Binding.schema).dedup := by
    apply (List.perm_ext_iff_of_nodup (SortedMap.nodup_keys _) (List.nodup_dedup _)).2
    intro schema
    rw [SortedMap.mem_keys_iff, List.mem_dedup, ← isSome_lastType?_iff, ← type?_ofBindings]
    rfl
  rw [← hperm.length_eq, SortedMap.keys, List.length_map]
  rfl

/-- The cache after any bindings answers by the last binding of each schema.  The schemas of a type
are those whose last binding is to it, each once and in order; the subject found for a type is the
least of them in the very format that is asked for; and every schema that was ever bound counts
once and is that of one type. -/
theorem last_binding_counts (bs : List Binding) :
  let c := ofBindings bs
  (∀ schema, c.type? schema = lastType? bs schema) ∧
  (∀ type format, (c.schemasOf type format).Nodup ∧
    (c.schemasOf type format).Pairwise SchemaInfo.Precedes ∧
    ∀ schema, schema ∈ c.schemasOf type format ↔
      lastType? bs schema = some type ∧ (format = .unspecified ∨ schema.format = format)) ∧
  (∀ type format subject, c.subject? type format = some subject ↔
    lastType? bs ⟨subject, format⟩ = some type ∧
      ∀ other, lastType? bs ⟨other, format⟩ = some type →
        Utf8.encode subject ≤ Utf8.encode other) ∧
  (∀ type format, c.subject? type format = none ↔
    ∀ subject, lastType? bs ⟨subject, format⟩ ≠ some type) ∧
  c.size = (bs.map Binding.schema).dedup.length ∧
  ∀ schema ∈ bs.map Binding.schema, ∃ owner, ∀ type,
    schema ∈ c.schemasOf type .unspecified ↔ type = owner
  := by
  intro c
  refine ⟨type?_ofBindings bs, ?_, fun _ _ _ => subject?_ofBindings_eq_some_iff,
    fun _ _ => subject?_ofBindings_eq_none_iff, size_ofBindings bs, ?_⟩
  · intro type format
    refine ⟨(c.nodup_bound type).filter _, (c.pairwise_bound type).filter _, ?_⟩
    intro schema
    apply mem_schemasOf_ofBindings
  · intro schema hmem
    obtain ⟨owner, howner⟩ := Option.isSome_iff_exists.1 (isSome_lastType?_iff.2 hmem)
    use owner
    intro type
    simp [c, mem_schemasOf_ofBindings, howner, eq_comm]

/-- A schema that goes to another type and comes back stands in its place again. -/
example :
    let orders : SchemaInfo := ⟨"orders", .json⟩
    let c := ofBindings [⟨⟨"Sales", "Placed"⟩, ⟨"sales", .json⟩⟩, ⟨⟨"Sales", "Placed"⟩, orders⟩,
      ⟨⟨"Sales", "Shipped"⟩, orders⟩, ⟨⟨"Sales", "Placed"⟩, orders⟩]
    c.subject? ⟨"Sales", "Placed"⟩ .json = some "orders" ∧ c.bound ⟨"Sales", "Shipped"⟩ = [] ∧
      c.size = 2 := by
  decide

end TypeCache

end WireSchemas
