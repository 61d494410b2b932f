import WireSchemas.Proofs.Registry.NamedDiscovery
import WireSchemas.Proofs.TypeCache.LastBinding

/-!
# What requests bind

A request binds one schema at most, that of the record which it resolves for its type.  So the cache
of a registry after a sequence of requests is that of the bindings which the requests to this
registry made one after the other.  Whenever tokens fire, it is coherent with the store.
-/

namespace WireSchemas

open Remote Resolution TypeCache

variable {n : Nat} {σ : Type}

/-! ### Requests that resolve a schema -/

/-- The part of a request that resolves a schema for a type. -/
structure Binder where
  type : MessageType
  resolve : Options → Operation (Except Failure RegisteredSchema)

/-- The binding that is made when a schema is resolved.  The missing type is never bound. -/
def Binder.binding? (b : Binder) : Except Failure RegisteredSchema → Option Binding
  | .ok record => if b.type.isMissing then none else some ⟨b.type, record.info⟩
  | .error _ => none

/-- The resolution of a discovery. -/
def Discovery.binder (d : Discovery) : Binder :=
  ⟨d.type, fun o => findOrRegister o d.info d.type⟩

/-- The resolution of a request, if it has one: that of a registration or of a discovery. -/
def Request.binder? : Request → Option Binder
  | register info definition type =>
    some ⟨type, fun o => Resolution.register o info definition type⟩
  | q => q.discovery?.map Discovery.binder

theorem Request.binder?_of_discovery? {q : Request} {d : Discovery} (h : q.discovery? = some d) :
  q.binder? = some d.binder
  := by
  cases q with
  | register info definition type => cases h
  | _ => exact congrArg (Option.map Discovery.binder) h

/-! ### The cache that a request leaves -/

/-- The cache with bindings made one after the other. -/
def TypeCache.bindAll (c : TypeCache) (bs : List Binding) : TypeCache :=
  bs.foldl (fun c b => c.bind b.type b.schema) c

theorem TypeCache.bindAll_append (c : TypeCache) (bs bs' : List Binding) :
  c.bindAll (bs ++ bs') = (c.bindAll bs).bindAll bs'
  := List.foldl_append

/-- A resolution leaves the cache with its binding. -/
theorem Resolution.Resolves.cache {info : SchemaInfo} {b : Binder} {c c' : TypeCache}
    {xs : List Exchange} {result : Except Failure RegisteredSchema}
    (h : Resolves info b.type c xs c' result) :
  c' = c.bindAll (b.binding? result).toList
  := by
  cases result with
  | error f => apply h.unchanged f rfl
  | ok record =>
    rw [h.bound record rfl, Binder.binding?]
    split <;> rfl

/-- A serializer that discovers no schema leaves the cache as it was. -/
theorem Codec.cache_serialize_of_discovery?_eq_none {codec : Codec} {catalog : Catalog}
    {message : Option Message} {headers : Headers}
    (h : codec.discovery? catalog message headers = none) (o : Options) (c : TypeCache)
    (client : Client σ) (t : Token) (s : σ) :
  ((codec.serialize o catalog message headers c).run client t s).cache = c
  := by
  cases himmediate : codec.immediate? (SchemaInfo.ofHeaders headers) message with
  | some body =>
    rw [serialize_of_immediate? himmediate]
    rfl
  | none =>
    obtain ⟨hformat, m, rfl, hraw⟩ := exists_record_of_immediate?_eq_none himmediate
    simp [discovery?, hformat, hraw] at h

/-- A request that resolves no schema leaves the cache as it was. -/
theorem Request.cache_run_of_binder?_eq_none {q : Request} (h : q.binder? = none) (o : Options)
    (c : TypeCache) (client : Client σ) (t : Token) (s : σ) :
  ((q.operation o c).run client t s).cache = c
  := by
  cases q with
  | register info definition type => cases h
  | find info =>
    rw [operation, Operation.map, Process.run_bind_done]
    apply ((ensures_find info c).run client t s).cache
  | findOrRegister info type => cases h
  | list type format =>
    rw [operation, Operation.map, Process.run_bind_done]
    apply ((ensures_findAll (c.schemasOf type format) c).run client t s).cache
  | serialize codecs catalog message headers =>
    have hdiscovery : (serialize codecs catalog message headers).discovery? = none :=
      Option.map_eq_none_iff.1 h
    rw [operation, Operation.map, Process.run_bind_done]
    simp only [discovery?, Registry.serialize, Registry.codec] at hdiscovery ⊢
    cases hcodec : codecs.get? (SchemaInfo.ofHeaders headers).format with
    | none => rfl
    | some codec =>
      simp only [hcodec] at hdiscovery
      apply Codec.cache_serialize_of_discovery?_eq_none hdiscovery
  | serializeBy codec catalog message headers =>
    rw [operation, Operation.map, Process.run_bind_done]
    apply Codec.cache_serialize_of_discovery?_eq_none (Option.map_eq_none_iff.1 h)

/-- A request that resolves a schema leaves the cache with the binding of its resolution. -/
theorem Request.cache_run_of_binder? {q : Request} {b : Binder} (h : q.binder? = some b)
    (o : Options) (c : TypeCache) (client : Client σ) (t : Token) (s : σ) :
  ((q.operation o c).run client t s).cache =
    c.bindAll (b.binding? ((b.resolve o c).run client t s).result).toList
  := by
  cases hq : q.discovery? with
  | some d =>
    obtain rfl := Option.some.inj ((binder?_of_discovery? hq).symm.trans h)
    rw [run_of_discovery? hq]
    apply Resolves.cache ((ensures_findOrRegister o d.info d.type c).run client t s)
  | none =>
    cases q with
    | register info definition type =>
      obtain rfl := Option.some.inj h
      rw [operation, Operation.map, Process.run_bind_done]
      apply Resolves.cache ((ensures_register o info definition type c).run client t s)
    | _ => simp [binder?, hq] at h

namespace Registries

section Bindings

variable (client : Client σ) (settings : Fin n → Options)

/-- The binding that an errand makes. -/
def binding? (r : Registries n σ) (e : Errand n) : Option Binding :=
  e.request.binder?.bind fun b =>
    b.binding?
      ((b.resolve (settings e.owner) (r.caches e.owner)).run client e.token r.remote).result

/-- The bindings that a list of errands makes in one of the caches. -/
def bindings (owner : Fin n) (r : Registries n σ) : List (Errand n) → List Binding
  | [] => []
  | e :: es =>
    (if e.owner = owner then (r.binding? client settings e).toList else []) ++
      (r.after client settings e).bindings owner es

variable {client settings} {owner : Fin n} {r : Registries n σ} {e : Errand n}
  {es : List (Errand n)}

theorem cache_outcome :
  (r.outcome client settings e).cache =
    (r.caches e.owner).bindAll (r.binding? client settings e).toList
  := by
  rw [outcome, binding?]
  cases h : e.request.binder? with
  | none => apply Request.cache_run_of_binder?_eq_none h
  | some b => apply Request.cache_run_of_binder? h

theorem caches_after :
  (r.after client settings e).caches owner = (r.caches owner).bindAll
    (if e.owner = owner then (r.binding? client settings e).toList else [])
  := by
  by_cases h : e.owner = owner
  · subst h
    rw [caches_after_self, if_pos rfl, cache_outcome]
  · rw [caches_after_of_ne r (Ne.symm h), if_neg h]
    rfl

/-- The cache of a registry gains the bindings that the errands make in it. -/
theorem caches_run :
  (r.run client settings es).caches owner =
    (r.caches owner).bindAll (r.bindings client settings owner es)
  := by
  induction es generalizing r with
  | nil => rfl
  | cons e es ih =>
    rw [bindings, bindAll_append, ← caches_after]
    apply ih

theorem caches_run_start {s : σ} :
  ((start s).run client settings es).caches owner =
    .ofBindings ((start s).bindings client settings owner es)
  := caches_run

end Bindings

/-! ### The states that errands lead to -/

/-- Every revision has an identifier, and every cache is coherent with it. -/
structure Consistent (r : Registries n Store) : Prop where
  identified : r.remote.Identified
  coherent : ∀ owner, Coherent r.remote (r.caches owner)

variable {clock : Nat → Timestamp} {settings : Fin n → Options}

theorem consistent_start :
  (start (n := n) .empty).Consistent
  := ⟨Store.identified_empty, fun _ => .empty _⟩

theorem Consistent.after {r : Registries n Store} (h : r.Consistent) (e : Errand n) :
  (r.after (.inMemory clock) settings e).Consistent
  := by
  have hleads : (Client.inMemory clock).Leads r.remote
      (r.after (.inMemory clock) settings e).remote := leads_after r e
  constructor
  · apply Client.identified_of_leads hleads h.identified
  · intro owner
    by_cases ho : e.owner = owner
    · subst ho
      rw [caches_after_self]
      apply (e.request.keeps_operation (Coherent.invariant clock) (settings e.owner)
        (h.coherent e.owner)).run
      intro s s' c hl hc
      apply hc.of_leads hl
    · rw [caches_after_of_ne r (Ne.symm ho)]
      apply (h.coherent owner).of_leads hleads

/-- Errands keep the caches coherent with the store, whenever their tokens fire. -/
theorem Consistent.run {r : Registries n Store} (h : r.Consistent) (es : List (Errand n)) :
  (r.run (.inMemory clock) settings es).Consistent
  := by
  apply run_keeps (P := Consistent) (Q := fun _ => True)
  · intro r e hr _
    apply hr.after e
  · apply h
  · simp

end Registries

end WireSchemas
