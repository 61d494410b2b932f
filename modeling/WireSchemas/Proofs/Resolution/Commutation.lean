import WireSchemas.Proofs.Resolution.Discovery
import WireSchemas.Proofs.TypeCache.Commutation

/-!
# Discoveries of different types

A discovery that succeeds finds a schema in the store or makes a revision of it, and which of the
two it does depends on what the cache has for its type and on what the store has for the schema.  A
discovery of another schema for another type changes neither, so two such discoveries may be made in
either order: only the times of the revisions can tell.
-/

namespace WireSchemas

open Remote

/-! ### Revisions without their times -/

/-- A record without its time. -/
def RegisteredSchema.undated (r : RegisteredSchema) : RegisteredSchema :=
  { r with createdAt := .epoch }

namespace Remote

/-- A stored schema without its time. -/
def StoredSchema.undated (s : StoredSchema) : StoredSchema :=
  { s with revision := { s.revision with createdAt := .epoch } }

/-- Stores that differ at most in the times of the revisions. -/
structure Store.Alike (s s' : Store) : Prop where
  creates : s.creates = s'.creates
  latest : ∀ schema, (s.latest? schema).map StoredSchema.undated =
    (s'.latest? schema).map StoredSchema.undated

namespace Store

variable {request request' : CreateRequest}

theorem Alike.refl (s : Store) :
  s.Alike s
  := ⟨rfl, fun _ => rfl⟩

/-- Revisions of different schemas may be made in either order, at whatever times. -/
theorem alike_create_create (s : Store) (hne : request.schema ≠ request'.schema)
    (now₁ now₂ now₁' now₂' : Timestamp) :
  ((s.create now₁ request).create now₂ request').Alike
    ((s.create now₁' request').create now₂' request)
  := by
  refine ⟨rfl, fun schema => ?_⟩
  simp only [latest?_create]
  by_cases h : request.schema = schema
  · subst h
    simp [hne.symm, StoredSchema.undated, nextRevision, nextVersion, latest?_create]
  · by_cases h' : request'.schema = schema
    · subst h'
      simp [hne, StoredSchema.undated, nextRevision, nextVersion, latest?_create]
    · simp [h, h']

end Store

end Remote

namespace Resolution

variable {clock : Nat → Timestamp} {o : Options} {c : TypeCache} {s : Store}
  {info schema schema' : SchemaInfo} {type type' : MessageType} {way : Way}

/-! ### A discovery beside another one -/

/-- The schema that is known for a type is known after another schema is bound to another type. -/
theorem knownSchema?_boundCache (hc : c.Inverse) (htype : type' ≠ type)
    (hne : ∀ known, knownSchema? c info type = some known → known ≠ schema') :
  knownSchema? (boundCache c type' schema') info type = knownSchema? c info type
  := by
  rw [boundCache]
  split
  · rfl
  · by_cases hname : info.NameMissing
    · simp only [knownSchema?, hname, if_true] at hne ⊢
      cases hsubject : c.subject? type info.format with
      | none => rw [TypeCache.subject?_bind_eq_none hc hsubject htype]
      | some subject =>
        have hother := hne (info.withName subject) (by rw [hsubject]; rfl)
        rw [TypeCache.subject?_bind_eq_some hc hsubject]
        · intro hschema
          cases hother hschema.symm
        · intro heq
          contradiction
    · simp [knownSchema?, hname]

theorem latest?_store (way : Way) (clock : Nat → Timestamp) (s : Store) (hne : schema ≠ schema') :
  (way.store clock s schema').latest? schema = s.latest? schema
  := by
  cases way with
  | found stored => rfl
  | made =>
    rw [Way.store, Store.latest?_create, if_neg]
    exact hne.symm

theorem Takes.known_ne (h : Takes o c s info type schema way) (hne : schema ≠ schema') :
  ∀ known, knownSchema? c info type = some known → known ≠ schema'
  := by
  intro known hknown
  cases way with
  | found stored =>
    obtain ⟨-, hschema, -⟩ := h
    obtain rfl : schema = known := Option.some.inj (hschema.symm.trans hknown)
    apply hne
  | made =>
    obtain ⟨-, hschema, hunknown | ⟨hname, -⟩⟩ := h
    · cases hunknown.symm.trans hknown
    · obtain ⟨-, ⟨-, rfl⟩ | ⟨hmissing, -⟩⟩ := registrationSchema_cases hschema
      · obtain rfl : schema = known := by simpa [knownSchema?, hname] using hknown
        apply hne
      · contradiction

/-- A discovery takes its way also after a discovery of another schema for another type. -/
theorem Takes.after (clock : Nat → Timestamp) (h : Takes o c s info type schema way)
    (hc : c.Inverse) (htype : type' ≠ type) (hne : schema ≠ schema') (way' : Way) :
  Takes o (boundCache c type' schema') (way'.store clock s schema') info type schema way
  := by
  have hknown := knownSchema?_boundCache hc htype (h.known_ne hne)
  have hlatest := latest?_store way' clock s hne
  cases way with
  | found stored => simpa only [Takes, hknown, hlatest] using h
  | made => simpa only [Takes, hknown, hlatest] using h

/-- The record of a discovery is the same after one of another schema, its time aside. -/
theorem undated_record_store (way way' : Way) (hne : schema ≠ schema') :
  (way.record clock (way'.store clock s schema') schema).undated =
    (way.record clock s schema).undated
  := by
  cases way with
  | found stored => rfl
  | made =>
    have hlatest := latest?_store way' clock s hne
    simp only [Way.record, RegisteredSchema.undated, newRecord, Store.nextRevision,
      Store.nextVersion, hlatest]

theorem alike_store_store (way way' : Way) (s : Store) (hne : schema ≠ schema') :
  (way'.store clock (way.store clock s schema) schema').Alike
    (way.store clock (way'.store clock s schema') schema)
  := by
  cases way with
  | found stored => cases way' <;> apply Store.Alike.refl
  | made =>
    cases way' with
    | found stored => apply Store.Alike.refl
    | made => apply Store.alike_create_create s hne

theorem boundCache_comm (c : TypeCache) (type type' : MessageType) (hne : schema ≠ schema') :
  boundCache (boundCache c type schema) type' schema' =
    boundCache (boundCache c type' schema') type schema
  := by
  simp only [boundCache]
  split
  · split <;> rfl
  · split
    · rfl
    · apply TypeCache.bind_comm c type type' hne

end Resolution

/-! ### Discoveries from any state -/

open Resolution

namespace Remote.World

/-- Discoveries for different types commute.  If from some state that registries come to each of
them succeeds on its own, with records of different schemas, then made in either order they come to
the same two records and leave the same cache and the same store, but for the times of the
revisions. -/
theorem discoveries_commute (clock : Nat → Timestamp) (settings : List Options)
    (jobs : List (Job settings.length)) (moves : List Move) (owner : Fin settings.length)
    (info info' : SchemaInfo) {type type' : MessageType} (htype : type ≠ type') :
  let w := (start settings jobs).run (.inMemory clock) moves
  let call := findOrRegister (settings.get owner) info type
  let call' := findOrRegister (settings.get owner) info' type'
  let alone := (call (w.cacheOf owner)).run (.inMemory clock) .live w.remote
  let alone' := (call' (w.cacheOf owner)).run (.inMemory clock) .live w.remote
  let last := (call alone'.cache).run (.inMemory clock) .live alone'.state
  let last' := (call' alone.cache).run (.inMemory clock) .live alone.state
  ∀ r r', alone.result = .ok r → alone'.result = .ok r' → r.info ≠ r'.info →
    last.result.map RegisteredSchema.undated = .ok r.undated ∧
    last'.result.map RegisteredSchema.undated = .ok r'.undated ∧
    last.cache = last'.cache ∧ last.state.Alike last'.state
  := by
  intro w call call' alone alone' last last' r r' hr hr' hne
  have hc : Coherent w.remote (w.cacheOf owner) := (kept_run clock settings jobs moves).caches owner
  have hs : w.remote.Identified := identified_run clock settings jobs moves
  obtain ⟨schema, way, htakes⟩ := exists_takes hc hs hr
  obtain ⟨schema', way', htakes'⟩ := exists_takes hc hs hr'
  obtain ⟨hresult, hcache, hstate⟩ := htakes.run clock
  obtain ⟨hresult', hcache', hstate'⟩ := htakes'.run clock
  obtain rfl : _ = r := Except.ok.inj (hresult.symm.trans hr)
  obtain rfl : _ = r' := Except.ok.inj (hresult'.symm.trans hr')
  simp only [Way.info_record] at hne
  -- each of them takes its way after the other one as well
  obtain ⟨hlast, hlastCache, hlastState⟩ :=
    (htakes.after clock hc.inverse htype.symm hne way').run clock
  obtain ⟨hlast', hlastCache', hlastState'⟩ :=
    (htakes'.after clock hc.inverse htype hne.symm way).run clock
  rw [← hcache', ← hstate'] at hlast hlastCache hlastState
  rw [← hcache, ← hstate] at hlast' hlastCache' hlastState'
  refine ⟨?_, ?_, ?_, ?_⟩
  · rw [hlast, hstate', Except.map, undated_record_store way way' hne]
  · rw [hlast', hstate, Except.map, undated_record_store way' way hne.symm]
  · rw [hlastCache, hlastCache', hcache, hcache']
    apply boundCache_comm _ _ _ hne.symm
  · rw [hlastState, hlastState', hstate, hstate']
    apply alike_store_store way' way _ hne.symm

/-- A registry has a type under two schemas. -/
def boundTwice : List (Job 1) :=
  [⟨0, .register ⟨"", .json⟩ "" ⟨"Sales", "Placed"⟩⟩,
    ⟨0, .register ⟨"orders", .json⟩ "\x7b\x7d" ⟨"Sales", "Placed"⟩⟩]

/-- A discovery that recovers the subject of a type commutes with one that takes a schema from that
type. -/
theorem recovery_commutes_with_taking :
  let w := (start [.default] boundTwice).run (.inMemory fun _ => .epoch) (turns 2 1)
  let call := findOrRegister .default ⟨"", .json⟩ ⟨"Sales", "Placed"⟩
  let call' := findOrRegister .default ⟨"orders", .json⟩ ⟨"Sales", "Shipped"⟩
  let alone := (call (w.cacheOf 0)).run (.inMemory fun _ => .epoch) .live w.remote
  let alone' := (call' (w.cacheOf 0)).run (.inMemory fun _ => .epoch) .live w.remote
  let last := (call alone'.cache).run (.inMemory fun _ => .epoch) .live alone'.state
  let last' := (call' alone.cache).run (.inMemory fun _ => .epoch) .live alone.state
  last.cache.typeOf ⟨"orders", .json⟩ = ⟨"Sales", "Shipped"⟩ ∧
    ∃ r r', alone.result = .ok r ∧ alone'.result = .ok r' ∧ r.info = ⟨"Sales.Placed", .json⟩ ∧
      r'.info = ⟨"orders", .json⟩ ∧ last.result.map RegisteredSchema.undated = .ok r.undated ∧
      last'.result.map RegisteredSchema.undated = .ok r'.undated ∧ last.cache = last'.cache
  := by
  intro w call call' alone alone' last last'
  have htypes : (⟨"Sales", "Placed"⟩ : MessageType) ≠ ⟨"Sales", "Shipped"⟩ := by decide
  have hcommute := discoveries_commute (fun _ => .epoch) [.default] boundTwice (turns 2 1)
    ⟨0, by decide⟩ ⟨"", .json⟩ ⟨"orders", .json⟩ htypes
  obtain ⟨hlast, hlast', hcache, -⟩ := hcommute _ _ rfl rfl (by decide)
  exact ⟨by decide +kernel, _, _, rfl, rfl, rfl, rfl, hlast, hlast', hcache⟩

end Remote.World

end WireSchemas
