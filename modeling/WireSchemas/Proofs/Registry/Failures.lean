import WireSchemas.Proofs.Serializer.Outcome

/-!
# Requests that fail

A request that fails leaves the cache of its registry and the headers of its caller as they were,
and it fails with the failure of the remote registry just as that was answered.  A codec that
refuses a message does so after the schema of the message is resolved: then the cache may have
gained the binding of the schema, and the headers its name if they had none.  What only asks
changes nothing, whether it fails or not.
-/

namespace WireSchemas

open Remote Resolution

variable {σ α : Type}

/-! ### What goes into requests and comes out of them -/

/-- The failure of a result. -/
def failureOf : Except Failure α → Option Failure
  | .ok _ => none
  | .error f => some f

@[simp]
theorem failureOf_eq_some_iff {result : Except Failure α} {f : Failure} :
  failureOf result = some f ↔ result = .error f
  := by
  cases result <;> simp [failureOf]

namespace Response

/-- The failure of a response. -/
def failure? : Response → Option Failure
  | record result => failureOf result
  | records result => failureOf result
  | serialized out => failureOf out.body

/-- The headers that a response leaves. -/
def headers? : Response → Option Headers
  | serialized out => some out.headers
  | record _ => none
  | records _ => none

end Response

namespace Request

/-- The headers of the caller. -/
def headers? : Request → Option Headers
  | serialize _ _ _ headers => some headers
  | serializeBy _ _ _ headers => some headers
  | register _ _ _ => none
  | find _ => none
  | findOrRegister _ _ => none
  | list _ _ => none

/-- The message to serialize. -/
def message? : Request → Option Message
  | serialize _ _ message _ => message
  | serializeBy _ _ message _ => message
  | register _ _ _ => none
  | find _ => none
  | findOrRegister _ _ => none
  | list _ _ => none

/-- A request that hears some answers takes one cache to another and leaves no trace of a failure,
or no more than the name and the binding of the schema of a message that its codec refused. -/
structure Traceless (q : Request) (c : TypeCache) (xs : List Exchange) (c' : TypeCache)
    (response : Response) : Prop where
  /-- The failure of a call is the failure of the request, as it was answered. -/
  passes : ∀ x ∈ xs, ∀ f, x.failure? = some f → response.failure? = some f
  /-- Any failure but one of encoding leaves everything as it was. -/
  unchanged : ∀ f, response.failure? = some f →
    (∀ schema cause, f ≠ .encodingFailed schema cause) →
    c' = c ∧ response.headers? = q.headers?
  /-- A failure of encoding leaves the headers with another name at most, if they had none. -/
  headers : ∀ schema cause, response.failure? = some (.encodingFailed schema cause) →
    ∀ h, q.headers? = some h → ∃ h', response.headers? = some h' ∧
      (∀ key, key ≠ Headers.schemaNameKey → h'.get? key = h.get? key) ∧
      (¬ (SchemaInfo.ofHeaders h).NameMissing → h' = h)
  /-- A failure of encoding leaves the cache with the binding of its schema at most. -/
  cache : ∀ schema cause, response.failure? = some (.encodingFailed schema cause) →
    c' = c ∨ ∃ m, q.message? = some m ∧ c' = c.bind m.type schema

variable {q : Request} {c c' : TypeCache} {xs : List Exchange} {response : Response}

/-- Nothing is left of a request that changes no headers, and no cache when it fails. -/
theorem Traceless.of_unchanged
    (hpasses : ∀ x ∈ xs, ∀ f, x.failure? = some f → response.failure? = some f)
    (hcache : ∀ f, response.failure? = some f → c' = c)
    (hheaders : response.headers? = q.headers?) :
  q.Traceless c xs c' response
  := by
  refine ⟨hpasses, ?_, ?_, ?_⟩
  · intro f hf hne
    exact ⟨hcache f hf, hheaders⟩
  · intro schema cause hf h hh
    exact ⟨h, hheaders.trans hh, fun _ _ => rfl, fun _ => rfl⟩
  · intro schema cause hf
    left
    apply hcache _ hf

theorem Traceless.of_faithful {result : Except Failure α} (h : Faithful xs result)
    (hresult : response.failure? = failureOf result)
    (hcache : ∀ f, result = .error f → c' = c) (hheaders : response.headers? = q.headers?) :
  q.Traceless c xs c' response
  := by
  apply of_unchanged
  · intro x hx f hf
    rw [hresult, failureOf_eq_some_iff]
    apply h.passes x hx f hf
  · intro f hf
    rw [hresult, failureOf_eq_some_iff] at hf
    apply hcache f hf
  · apply hheaders

/-! ### Serialization -/

variable {o : Options} {catalog : Catalog} {headers : Headers}

/-- Serialization that stops before the resolution of a schema. -/
theorem traceless_done (hheaders : q.headers? = some headers) (body : Except Failure Bytes) :
  q.Traceless c [] c (.serialized ⟨headers, body⟩)
  := by
  apply Traceless.of_unchanged
  · simp
  · intro f hf
    rfl
  · apply hheaders.symm

/-- A codec writes or refuses a message whose schema is resolved. -/
theorem traceless_serialized (codec : Codec) {m : Message}
    {result : Except Failure RegisteredSchema} (hheaders : q.headers? = some headers)
    (hmessage : q.message? = some m)
    (h : Resolves (SchemaInfo.ofHeaders headers) m.type c xs c' result) :
  q.Traceless c xs c' (.serialized (codec.serialized catalog headers m result))
  := by
  cases result with
  | error f =>
    apply Traceless.of_faithful h.faithful rfl h.unchanged
    apply hheaders.symm
  | ok record =>
    refine ⟨?_, ?_, ?_, ?_⟩
    · -- the schema is resolved, so no call has failed
      intro x hx f hf
      cases h.faithful.passes x hx f hf
    · intro f hf hne
      obtain ⟨cause, rfl⟩ :=
        Codec.encodingFailed_of_encodeResolved (failureOf_eq_some_iff.1 hf)
      cases hne _ _ rfl
    · intro schema cause hf h hh
      obtain rfl : headers = h := Option.some.inj (hheaders.symm.trans hh)
      exact ⟨Codec.nameHeaders headers record, rfl,
        fun key => Codec.get?_nameHeaders_of_ne headers record, Codec.nameHeaders_of_named record⟩
    · intro schema cause hf
      obtain ⟨cause', hinfo⟩ :=
        Codec.encodingFailed_of_encodeResolved (failureOf_eq_some_iff.1 hf)
      cases hinfo
      rw [h.bound record rfl]
      split
      · exact .inl rfl
      · exact .inr ⟨m, hmessage, rfl⟩

theorem ensures_serialize (codec : Codec) (o : Options) (catalog : Catalog) (m : Option Message)
    (hheaders : q.headers? = some headers) (hmessage : q.message? = m) (c : TypeCache) :
  (codec.serialize o catalog m headers c).Ensures fun xs c' out =>
    q.Traceless c xs c' (.serialized out)
  := by
  cases himmediate : codec.immediate? (SchemaInfo.ofHeaders headers) m with
  | some body =>
    rw [Codec.serialize_of_immediate? himmediate]
    apply traceless_done hheaders
  | none =>
    obtain ⟨hformat, m, rfl, hraw⟩ := Codec.exists_record_of_immediate?_eq_none himmediate
    rw [Codec.serialize_record o catalog hformat hraw]
    apply (ensures_findOrRegister o (SchemaInfo.ofHeaders headers) m.type c).bind_done
    intro xs c' result h
    apply traceless_serialized codec hheaders hmessage h

/-! ### Requests and questions -/

theorem ensures_traceless (o : Options) (q : Request) (c : TypeCache) :
  (q.operation o c).Ensures (q.Traceless c)
  := by
  cases q with
  | register info definition type =>
    apply (ensures_register o info definition type c).bind_done
    intro xs c' result h
    apply Traceless.of_faithful h.faithful rfl h.unchanged rfl
  | find info =>
    apply (ensures_find info c).bind_done
    intro xs c' result h
    apply Traceless.of_faithful h.faithful rfl (fun _ _ => h.cache) rfl
  | findOrRegister info type =>
    apply (ensures_findOrRegister o info type c).bind_done
    intro xs c' result h
    apply Traceless.of_faithful h.faithful rfl h.unchanged rfl
  | list type format =>
    apply (ensures_findAll (c.schemasOf type format) c).bind_done
    intro xs c' result h
    apply Traceless.of_faithful h.faithful rfl (fun _ _ => h.cache) rfl
  | serialize codecs catalog m headers =>
    simp only [operation, Registry.serialize]
    split
    · next codec _ =>
      apply (ensures_serialize (q := .serialize codecs catalog m headers) codec o catalog m rfl rfl
        c).bind_done
      intro xs c' out h
      apply h
    · apply traceless_done rfl
  | serializeBy codec catalog m headers =>
    apply (ensures_serialize (q := .serializeBy codec catalog m headers) codec o catalog m rfl rfl
      c).bind_done
    intro xs c' out h
    apply h

end Request

/-- What a registry is asked without being changed.  Headers are read only. -/
inductive Question where
  | find (info : SchemaInfo)
  | list (type : MessageType) (format : DataFormat)
  | schemaInfo (type : MessageType) (format : DataFormat)
  | typeOf (schema : SchemaInfo)
  | deserialize (codecs : SortedMap DataFormat Codec) (catalog : Catalog) (data : Bytes)
      (headers : Headers)

/-- What a question comes to. -/
inductive Answer where
  | record (result : Except Failure RegisteredSchema)
  | records (result : Except Failure (List RegisteredSchema))
  | info (result : Except Failure SchemaInfo)
  | type (type : MessageType)
  | message (result : Except Failure (Option Message))

/-- The operation of a question to a registry with given settings. -/
def Question.operation (o : Options) : Question → Operation Answer
  | find info => (Resolution.find info).map .record
  | list type format => (Resolution.list type format).map .records
  | schemaInfo type format => fun c => .done c (.info (o.schemaInfo type format))
  | typeOf schema => fun c => .done c (.type (c.typeOf schema))
  | deserialize codecs catalog data headers => fun c =>
    .done c (.message (Registry.deserialize ⟨o, catalog, codecs, c⟩ data headers))

theorem Question.ensures_unchanged (o : Options) (q : Question) (c : TypeCache) :
  (q.operation o c).Ensures fun _ c' _ => c' = c
  := by
  cases q with
  | find info =>
    apply (ensures_find info c).bind_done
    intro xs c' result h
    apply h.cache
  | list type format =>
    apply (ensures_findAll (c.schemasOf type format) c).bind_done
    intro xs c' result h
    apply h.cache
  | schemaInfo type format => rfl
  | typeOf schema => rfl
  | deserialize codecs catalog data headers => rfl

/-- Whatever the remote registry answers and whenever the token fires, no request leaves a trace of
its failure and no question leaves a trace at all. -/
theorem failures_leave_no_trace (o : Options) (client : Client σ) (t : Token) (s : σ)
    (c : TypeCache) :
  (∀ q : Request,
    let call := q.operation o c
    let out := call.run client t s
    q.Traceless c (call.heard client t s) out.cache out.result) ∧
  (∀ q : Question, ((q.operation o c).run client t s).cache = c)
  := by
  constructor
  · intro q
    apply (Request.ensures_traceless o q c).run client t s
  · intro q
    apply (Question.ensures_unchanged o q c).run client t s

/-- The creation of a schema is carried out, but the call is cancelled before that is heard. -/
theorem unheard_creation_leaves_no_trace :
  let m : Message := .record Sample.userDeleted ("ada", 7, ())
  let q : Request := .serializeBy .json .empty (some m) Codec.formerHeaders
  let out := (q.operation .default .empty).run (.inMemory fun _ => .epoch) (.firing 0 .unheard)
    .empty
  (out.state.latest? ⟨"Identity.Schema.UserDeleted", .json⟩).isSome = true ∧
    out.result.failure? = some .cancelled ∧ out.cache = .empty ∧
    out.result.headers? = some Codec.formerHeaders
  := by
  intro m q out
  have hcreated : (out.state.latest? ⟨"Identity.Schema.UserDeleted", .json⟩).isSome = true := by
    decide +kernel
  have hfailed : out.result.failure? = some .cancelled := by decide +kernel
  obtain ⟨hrequest, -⟩ := failures_leave_no_trace .default (.inMemory fun _ => .epoch)
    (.firing 0 .unheard) .empty .empty
  refine ⟨hcreated, hfailed, ?_⟩
  apply (hrequest q).unchanged .cancelled hfailed
  simp

end WireSchemas
