import WireSchemas.Proofs.Headers.Schema
import WireSchemas.Proofs.Registry.Requests
import WireSchemas.Proofs.Remote.Heard
import WireSchemas.Proofs.Resolution.Outcome
import WireSchemas.Sample

/-!
# What serialization comes to

The serialization of a record is the resolution of its schema, with headers and a body made of the
result.  Once the schema is resolved the headers name it and the cache gives the type of the
record for it, whether the codec then writes the record or refuses it: whoever reads the headers
afterwards finds the type.  A body is read by the codec unless it is empty or in another format.
-/

namespace WireSchemas.Codec

open Remote Resolution

variable {σ : Type} {c : Codec} {o : Options} {catalog : Catalog} {headers : Headers}
  {record : RegisteredSchema} {m : Message} {data : Bytes}

/-! ### Headers of a resolved schema -/

/-- Headers that are given the name of a record carry its schema. -/
theorem ofHeaders_nameHeaders (h : record.info.Agrees (SchemaInfo.ofHeaders headers)) :
  SchemaInfo.ofHeaders (nameHeaders headers record) = record.info
  := by
  rw [nameHeaders]
  split
  · rw [SchemaInfo.ofHeaders_setSchemaName, ← h.format]
    rfl
  · next hname =>
    rw [RegisteredSchema.info, SchemaInfo.mk.injEq]
    exact ⟨(h.name hname).symm, h.format.symm⟩

theorem get?_nameHeaders_of_ne (headers : Headers) (record : RegisteredSchema) {key : String}
    (hne : key ≠ Headers.schemaNameKey) :
  (nameHeaders headers record).get? key = headers.get? key
  := by
  rw [nameHeaders]
  split
  · apply Headers.get?_setSchemaName_of_ne _ _ hne
  · rfl

theorem nameHeaders_of_named (record : RegisteredSchema)
    (hname : ¬ (SchemaInfo.ofHeaders headers).NameMissing) :
  nameHeaders headers record = headers
  := if_neg hname

/-! ### Serialization as a resolution -/

/-- What serialization makes of the result of the resolution. -/
def serialized (c : Codec) (catalog : Catalog) (headers : Headers) (m : Message) :
    Except Failure RegisteredSchema → Serialized
  | .error f => ⟨headers, .error f⟩
  | .ok record => c.encodeResolved catalog headers m record

/-- Once the schema is resolved only the codec can fail. -/
theorem encodingFailed_of_encodeResolved {f : Failure}
    (h : (c.encodeResolved catalog headers m record).body = .error f) :
  ∃ cause, f = .encodingFailed record.info cause
  := by
  simp only [encodeResolved] at h
  split at h
  · cases h
  · next cause _ =>
    use cause, (Except.error.inj h).symm

theorem encode_of_encodeResolved {data : Bytes}
    (h : (c.encodeResolved catalog headers m record).body = .ok data) :
  c.encode catalog (nameHeaders headers record) m = .ok data
  := by
  simp only [encodeResolved] at h
  split at h
  · next data' hencode =>
    obtain rfl := Except.ok.inj h
    apply hencode
  · cases h

/-- Headers of another format than the codec's are refused. -/
theorem serialize_of_format_ne (o : Options) (catalog : Catalog) (m : Option Message)
    (hformat : (SchemaInfo.ofHeaders headers).format ≠ c.format) (cache : TypeCache) :
  c.serialize o catalog m headers cache = .done cache
    ⟨headers, .error (.unsupportedFormat c.format (SchemaInfo.ofHeaders headers).format)⟩
  := by
  simp [serialize, Codec.guard, hformat]

/-- No message has an empty body, without a schema. -/
theorem serialize_none (o : Options) (catalog : Catalog)
    (hformat : (SchemaInfo.ofHeaders headers).format = c.format) (cache : TypeCache) :
  c.serialize o catalog none headers cache = .done cache ⟨headers, .ok []⟩
  := by
  simp only [serialize, Codec.guard, if_pos hformat]

/-- Raw bytes are the body, without a schema. -/
theorem serialize_raw (o : Options) (catalog : Catalog)
    (hformat : (SchemaInfo.ofHeaders headers).format = c.format) {bytes : Bytes}
    (hraw : m.rawBytes? = some bytes) (cache : TypeCache) :
  c.serialize o catalog (some m) headers cache = .done cache ⟨headers, .ok bytes⟩
  := by
  simp only [serialize, Codec.guard, if_pos hformat, hraw]

/-- For any other message the schema is resolved first. -/
theorem serialize_record (o : Options) (catalog : Catalog)
    (hformat : (SchemaInfo.ofHeaders headers).format = c.format) (hrecord : m.rawBytes? = none) :
  c.serialize o catalog (some m) headers =
    (findOrRegister o (SchemaInfo.ofHeaders headers) m.type).map (c.serialized catalog headers m)
  := by
  funext cache
  simp only [serialize, Codec.guard, if_pos hformat, hrecord, Operation.map]
  congr 1
  funext result cache'
  cases result <;> rfl

/-- What a serializer gives at once, when it needs no schema: a refusal of another format, the empty
body of no message, or raw bytes. -/
def immediate? (c : Codec) (info : SchemaInfo) (m : Option Message) :
    Option (Except Failure Bytes) :=
  if info.format = c.format then
    match m with
    | none => some (.ok [])
    | some m => m.rawBytes?.map .ok
  else some (.error (.unsupportedFormat c.format info.format))

theorem serialize_of_immediate? {m : Option Message} {body : Except Failure Bytes}
    (h : c.immediate? (SchemaInfo.ofHeaders headers) m = some body) (o : Options)
    (catalog : Catalog) (cache : TypeCache) :
  c.serialize o catalog m headers cache = .done cache ⟨headers, body⟩
  := by
  simp only [immediate?] at h
  split at h
  · next hformat =>
    cases m with
    | none =>
      obtain rfl := Option.some.inj h
      apply serialize_none o catalog hformat
    | some m =>
      obtain ⟨bytes, hraw, rfl⟩ := Option.map_eq_some_iff.1 h
      apply serialize_raw o catalog hformat hraw
  · next hformat =>
    obtain rfl := Option.some.inj h
    apply serialize_of_format_ne o catalog m hformat

/-- Only a record in the format of the serializer needs a schema. -/
theorem exists_record_of_immediate?_eq_none {info : SchemaInfo} {m : Option Message}
    (h : c.immediate? info m = none) :
  info.format = c.format ∧ ∃ record, m = some record ∧ record.rawBytes? = none
  := by
  simp only [immediate?] at h
  split at h
  · next hformat =>
    cases m with
    | none => cases h
    | some m => exact ⟨hformat, m, rfl, Option.map_eq_none_iff.1 h⟩
  · cases h

/-- Nothing is refused at once in the format of the serializer. -/
theorem immediate?_ne_error {info : SchemaInfo} {m : Option Message} {f : Failure}
    (hformat : info.format = c.format) :
  c.immediate? info m ≠ some (.error f)
  := by
  cases m <;> simp [immediate?, hformat]

/-- A run of the serialization of a record is a run of the resolution of its schema, and leaves
what is made of the result. -/
theorem resolves_serialize_record (o : Options) (catalog : Catalog)
    (hformat : (SchemaInfo.ofHeaders headers).format = c.format) (hrecord : m.rawBytes? = none)
    (client : Client σ) (t : Token) (s : σ) (cache : TypeCache) :
  let info := SchemaInfo.ofHeaders headers
  let found := (findOrRegister o info m.type cache).run client t s
  let call := c.serialize o catalog (some m) headers cache
  let out := call.run client t s
  out.result = c.serialized catalog headers m found.result ∧
    Resolves info m.type cache (call.heard client t s) out.cache found.result
  := by
  intro info found call out
  have hcall : call = (findOrRegister o info m.type).map (c.serialized catalog headers m) cache :=
    congrFun (serialize_record o catalog hformat hrecord) cache
  have hout : out = found.map (c.serialized catalog headers m) := by
    simp only [out, hcall]
    apply Process.run_bind_done
  have hheard : call.heard client t s = (findOrRegister o info m.type cache).heard client t s := by
    rw [hcall]
    apply Process.heard_bind_done
  rw [hout, hheard]
  exact ⟨rfl, (ensures_findOrRegister o info m.type cache).run client t s⟩

/-! ### Reading -/

theorem deserialize_of_format_ne (hformat : (SchemaInfo.ofHeaders headers).format ≠ c.format)
    (cache : TypeCache) (catalog : Catalog) (data : Bytes) :
  c.deserialize cache catalog data headers =
    .error (.unsupportedFormat c.format (SchemaInfo.ofHeaders headers).format)
  := by
  simp [deserialize, Codec.guard, hformat]

theorem deserialize_nil {cache : TypeCache}
    (hformat : (SchemaInfo.ofHeaders headers).format = c.format) :
  c.deserialize cache catalog [] headers = .ok none
  := by
  simp [deserialize, Codec.guard, hformat]

/-- A message is read from a body with something in it, in the format of the codec, by the codec. -/
theorem deserialize_eq_some_iff (hbytes : c.format ≠ .bytes) {cache : TypeCache} :
  c.deserialize cache catalog data headers = .ok (some m) ↔
    (SchemaInfo.ofHeaders headers).format = c.format ∧ data ≠ [] ∧
      c.decode catalog headers (cache.typeOf (SchemaInfo.ofHeaders headers)) data = .ok (some m)
  := by
  by_cases hformat : (SchemaInfo.ofHeaders headers).format = c.format
  · by_cases hdata : data = []
    · subst hdata
      simp [deserialize_nil hformat]
    · simp only [deserialize, Codec.guard, hformat, hbytes, hdata, List.isEmpty_iff, if_true,
        if_false, ne_eq, not_false_eq_true, true_and]
      cases c.decode catalog headers (cache.typeOf (SchemaInfo.ofHeaders headers)) data <;> simp
  · simp [deserialize_of_format_ne hformat, hformat]

/-! ### The schema that serialization leaves -/

/-- Whatever the headers and the cache were before, a record that is written, or refused by the
codec, leaves headers that name the schema of its resolution and a cache that gives its type for
that schema.  Only the schema name is written, and none over a name that was there.  So it is for
any client that fails remotely, whatever it answers.  Any other client may itself answer with a
failure of encoding, which is passed on and changes nothing. -/
theorem serialized_schema_resolves (c : Codec) (o : Options) (catalog : Catalog)
    (client : Client σ) (t : Token) (s : σ) (cache : TypeCache) (headers : Headers)
    (hrecord : m.rawBytes? = none) (htype : m.type.isMissing = false) :
  let info := SchemaInfo.ofHeaders headers
  let call := c.serialize o catalog (some m) headers cache
  let out := call.run client t s
  let resolved := ∃ record,
    ((findOrRegister o info m.type cache).run client t s).result = .ok record ∧
      SchemaInfo.ofHeaders out.result.headers = ⟨record.subject, c.format⟩ ∧
      out.cache.typeOf ⟨record.subject, c.format⟩ = m.type ∧
      (∀ key, key ≠ Headers.schemaNameKey → out.result.headers.get? key = headers.get? key) ∧
      (¬ info.NameMissing → out.result.headers = headers ∧ record.subject = info.name)
  (∀ f, out.result.body = .error f → ∃ schema cause, f = .encodingFailed schema cause) →
    (client.FailsRemotely → resolved) ∧
    (resolved ∨ ∃ x ∈ call.heard client t s, ∃ f, x.failure? = some f ∧
      out.result = ⟨headers, .error f⟩ ∧ out.cache = cache)
  := by
  intro info call out resolved hend
  have hcases : resolved ∨ ∃ x ∈ call.heard client t s, ∃ f, x.failure? = some f ∧
      out.result = ⟨headers, .error f⟩ ∧ out.cache = cache := by
    by_cases hformat : info.format = c.format
    · obtain ⟨hout, hresolves⟩ :=
        resolves_serialize_record o catalog hformat hrecord client t s cache
      change out.result = _ at hout
      simp only [resolved]
      rw [hout] at hend ⊢
      cases hfound : ((findOrRegister o info m.type cache).run client t s).result with
      | error f =>
        right
        -- a failure of encoding is no refusal, so a call was answered with it
        rw [hfound] at hend hresolves
        rcases hresolves.faithful.own f rfl with ⟨x, hx, hf⟩ | hrefusal
        · exact ⟨x, hx, f, hf, rfl, hresolves.unchanged f rfl⟩
        · obtain ⟨schema, cause, rfl⟩ := hend f rfl
          cases hrefusal
      | ok record =>
        left
        rw [hfound] at hresolves
        have hagrees := hresolves.agrees record rfl
        have hinfo : record.info = ⟨record.subject, c.format⟩ := by
          rw [← hformat, ← hagrees.format]
          rfl
        use record, rfl
        rw [← hinfo]
        refine ⟨ofHeaders_nameHeaders hagrees, hresolves.typeOf htype, ?_, ?_⟩
        · intro key hne
          apply get?_nameHeaders_of_ne headers record hne
        · intro hname
          exact ⟨nameHeaders_of_named record hname, hagrees.name hname⟩
    · have hout : out = _ :=
        congrArg (·.run client t s) (serialize_of_format_ne o catalog (some m) hformat cache)
      obtain ⟨schema, cause, hf⟩ := hend _ (congrArg (·.result.body) hout)
      cases hf
  refine ⟨?_, hcases⟩
  intro hremote
  apply hcases.resolve_right
  rintro ⟨x, hx, f, hf, hresult, -⟩
  obtain ⟨schema, cause, rfl⟩ := hend f (congrArg Serialized.body hresult)
  rcases Process.failure_heard hremote hx hf with heq | ⟨text, heq⟩ <;> cases heq

/-- Headers with a null for a name, a blank former name, and a format that only the former key
gives. -/
def formerHeaders : Headers :=
  SortedMap.ofList [(Headers.schemaNameKey, none), (Headers.formerNameKey, some " "),
    (Headers.dataFormatKey, some "?"), (Headers.formerFormatKey, some "Json")]

/-- A codec refuses a record after its schema was created. -/
theorem refused_schema_resolves :
  let m : Message := .record Sample.userRegistered ("ada", "ada@example.org", ())
  let out := (json.serialize .default .empty (some m) formerHeaders .empty).run
    (.inMemory fun _ => .epoch) .live .empty
  let schema : SchemaInfo := ⟨"Identity.Schema.UserRegistered", .json⟩
  out.result.body = .error (.encodingFailed schema (.noJsonCodec m.type)) ∧
    SchemaInfo.ofHeaders out.result.headers = schema ∧ out.cache.typeOf schema = m.type ∧
    out.result.headers.get? Headers.formerNameKey = some (some " ")
  := by
  intro m out schema
  have hbody : out.result.body = .error (.encodingFailed schema (.noJsonCodec m.type)) := by
    decide +kernel
  have hend : ∀ f, out.result.body = .error f → ∃ schema cause, f = .encodingFailed schema cause
    := by
    intro f hf
    cases hbody.symm.trans hf
    exact ⟨_, _, rfl⟩
  obtain ⟨record, hrecord, hheaders, htype, hkeys, -⟩ := (serialized_schema_resolves json .default
    .empty (.inMemory fun _ => .epoch) .live .empty .empty formerHeaders (m := m) rfl rfl hend).1
    (Client.failsRemotely_inMemory _)
  have hsubject : ((findOrRegister .default (SchemaInfo.ofHeaders formerHeaders) m.type .empty).run
      (.inMemory fun _ => .epoch) .live .empty).result.toOption.map RegisteredSchema.subject =
        some schema.name := by
    decide +kernel
  rw [hrecord] at hsubject
  obtain ⟨name, format, id, definition, version, createdAt⟩ := record
  obtain rfl : name = schema.name := Option.some.inj hsubject
  exact ⟨hbody, hheaders, htype, hkeys _ (by decide)⟩

end WireSchemas.Codec
