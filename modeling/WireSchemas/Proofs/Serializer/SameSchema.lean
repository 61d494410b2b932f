import WireSchemas.Codec.Stub
import WireSchemas.Proofs.Serializer.Outcome

/-!
# Headers of one schema

A serializer makes nothing of the headers but the schema info that they carry, in whatever keys and
spellings they carry it.  Under two headers of one schema it makes the same calls and leaves the
same cache, and the headers that it leaves are of one schema again.  The body is the same too, and
so is what is read from a body, unless the codec itself looks at other headers; the built-in ones do
not.
-/

namespace WireSchemas

open Remote Resolution

variable {σ : Type}

/-! ### What codecs see -/

/-- Headers carry one schema when the same schema info is read from them. -/
def Headers.SameSchema (h h' : Headers) : Prop :=
  SchemaInfo.ofHeaders h = SchemaInfo.ofHeaders h'

/-- A codec that makes nothing of the headers but the schema info that they carry. -/
structure Codec.ReadsSchemaOnly (c : Codec) : Prop where
  encode : ∀ catalog {h h' : Headers} m, h.SameSchema h' →
    c.encode catalog h m = c.encode catalog h' m
  decode : ∀ catalog {h h' : Headers} type data, h.SameSchema h' →
    c.decode catalog h type data = c.decode catalog h' type data

theorem Codec.readsSchemaOnly_bytes :
  bytes.ReadsSchemaOnly
  := ⟨fun _ _ _ _ _ => rfl, fun _ _ _ _ _ _ => rfl⟩

theorem Codec.readsSchemaOnly_json :
  json.ReadsSchemaOnly
  := by
  constructor
  · intro catalog h h' m hsame
    rfl
  · intro catalog h h' type data hsame
    simp only [json, show SchemaInfo.ofHeaders h = SchemaInfo.ofHeaders h' from hsame]

theorem Codec.readsSchemaOnly_protobuf :
  protobuf.ReadsSchemaOnly
  := by
  constructor
  · intro catalog h h' m hsame
    rfl
  · intro catalog h h' type data hsame
    simp only [protobuf, show SchemaInfo.ofHeaders h = SchemaInfo.ofHeaders h' from hsame]

/-- The built-in codecs look at no other headers. -/
theorem Codec.readsSchemaOnly_of_builtIn? {format : DataFormat} {c : Codec}
    (h : builtIn? format = some c) :
  c.ReadsSchemaOnly
  := by
  cases format with
  | bytes =>
    obtain rfl := Option.some.inj h
    apply readsSchemaOnly_bytes
  | json =>
    obtain rfl := Option.some.inj h
    apply readsSchemaOnly_json
  | protobuf =>
    obtain rfl := Option.some.inj h
    apply readsSchemaOnly_protobuf
  | avro => cases h
  | unspecified => cases h

/-! ### Two runs in step -/

/-- What two serializations come to that differ at most in the headers that do not carry the schema,
and perhaps in the bodies. -/
structure InStep (out out' : Outcome σ Serialized) : Prop where
  calls : out.calls = out'.calls
  cache : out.cache = out'.cache
  state : out.state = out'.state
  headers : out.result.headers.SameSchema out'.result.headers

namespace Codec

variable {c : Codec} {catalog : Catalog} {h h' : Headers} {m : Message}

/-- Headers of one schema are of one schema when they are given the name of a record. -/
theorem sameSchema_nameHeaders (hsame : h.SameSchema h') (record : RegisteredSchema) :
  (nameHeaders h record).SameSchema (nameHeaders h' record)
  := by
  have hinfo : SchemaInfo.ofHeaders h = SchemaInfo.ofHeaders h' := hsame
  rw [nameHeaders, nameHeaders, hinfo]
  split
  · rw [Headers.SameSchema, SchemaInfo.ofHeaders_setSchemaName,
      SchemaInfo.ofHeaders_setSchemaName, hinfo]
  · apply hsame

theorem sameSchema_serialized (hsame : h.SameSchema h') (m : Message)
    (result : Except Failure RegisteredSchema) :
  (c.serialized catalog h m result).headers.SameSchema (c.serialized catalog h' m result).headers
  := by
  cases result with
  | error f => apply hsame
  | ok record => apply sameSchema_nameHeaders hsame record

theorem body_serialized (hc : c.ReadsSchemaOnly) (hsame : h.SameSchema h') (m : Message)
    (result : Except Failure RegisteredSchema) :
  (c.serialized catalog h m result).body = (c.serialized catalog h' m result).body
  := by
  cases result with
  | error f => rfl
  | ok record =>
    simp only [serialized, encodeResolved,
      hc.encode catalog m (sameSchema_nameHeaders hsame record)]

/-- Under headers of one schema a serializer does the same, up to the body that its codec makes. -/
theorem inStep_serialize (c : Codec) (o : Options) (catalog : Catalog) (m : Option Message)
    (hsame : h.SameSchema h') (client : Client σ) (t : Token) (s : σ) (cache : TypeCache) :
  let out := (c.serialize o catalog m h cache).run client t s
  let out' := (c.serialize o catalog m h' cache).run client t s
  InStep out out' ∧ (c.ReadsSchemaOnly → out.result.body = out'.result.body)
  := by
  have hinfo : SchemaInfo.ofHeaders h = SchemaInfo.ofHeaders h' := hsame
  cases himmediate : c.immediate? (SchemaInfo.ofHeaders h') m with
  | some body =>
    rw [serialize_of_immediate? (hinfo ▸ himmediate), serialize_of_immediate? himmediate]
    exact ⟨⟨rfl, rfl, rfl, hsame⟩, fun _ => rfl⟩
  | none =>
    obtain ⟨hformat, m, rfl, hraw⟩ := exists_record_of_immediate?_eq_none himmediate
    -- both are runs of one resolution, whose result is then given two forms
    rw [serialize_record o catalog (hinfo ▸ hformat) hraw, serialize_record o catalog hformat hraw,
      hinfo]
    simp only [Operation.map, Process.run_bind_done]
    exact ⟨⟨rfl, rfl, rfl, sameSchema_serialized hsame m _⟩,
      fun hc => body_serialized hc hsame m _⟩

theorem deserialize_of_sameSchema (hc : c.ReadsSchemaOnly) (hsame : h.SameSchema h')
    (cache : TypeCache) (catalog : Catalog) (data : Bytes) :
  c.deserialize cache catalog data h = c.deserialize cache catalog data h'
  := by
  have hinfo : SchemaInfo.ofHeaders h = SchemaInfo.ofHeaders h' := hsame
  simp only [deserialize, hinfo, hc.decode catalog _ data hsame]

end Codec

/-! ### Serializers of a registry -/

/-- Who serializes with the settings and the cache of a registry: a serializer of one format, or the
registry itself. -/
inductive Server where
  | codec (c : Codec)
  | registry

namespace Server

/-- Serialize by a server. -/
def serialize (r : Registry) : Server → Option Message → Headers → Operation Serialized
  | codec c => r.serializeBy c
  | registry => r.serialize

/-- Deserialize by a server. -/
def deserialize (r : Registry) : Server → Bytes → Headers → Except Failure (Option Message)
  | codec c => r.deserializeBy c
  | registry => r.deserialize

/-- Every codec that a server uses makes nothing of the headers but their schema info. -/
def ReadsSchemaOnly (r : Registry) : Server → Prop
  | codec c => c.ReadsSchemaOnly
  | registry => ∀ format c, r.codecs.get? format = some c → c.ReadsSchemaOnly

variable {r : Registry} {h h' : Headers}

theorem inStep_serialize (r : Registry) (server : Server) (m : Option Message)
    (hsame : h.SameSchema h') (client : Client σ) (t : Token) (s : σ) :
  let out := (server.serialize r m h r.cache).run client t s
  let out' := (server.serialize r m h' r.cache).run client t s
  InStep out out' ∧ (server.ReadsSchemaOnly r → out.result.body = out'.result.body)
  := by
  have hinfo : SchemaInfo.ofHeaders h = SchemaInfo.ofHeaders h' := hsame
  cases server with
  | codec c => apply c.inStep_serialize r.options r.catalog m hsame client t s r.cache
  | registry =>
    simp only [serialize, Registry.serialize, Registry.codec, hinfo]
    cases hcodec : r.codecs.get? (SchemaInfo.ofHeaders h').format with
    | none => exact ⟨⟨rfl, rfl, rfl, hsame⟩, fun _ => rfl⟩
    | some c =>
      obtain ⟨hstep, hbody⟩ := c.inStep_serialize r.options r.catalog m hsame client t s r.cache
      exact ⟨hstep, fun hcodecs => hbody (hcodecs _ c hcodec)⟩

theorem deserialize_of_sameSchema {server : Server} (hserver : server.ReadsSchemaOnly r)
    (hsame : h.SameSchema h') (data : Bytes) :
  server.deserialize r data h = server.deserialize r data h'
  := by
  have hinfo : SchemaInfo.ofHeaders h = SchemaInfo.ofHeaders h' := hsame
  cases server with
  | codec c => apply Codec.deserialize_of_sameSchema hserver hsame
  | registry =>
    simp only [deserialize, Registry.deserialize, Registry.codec, hinfo]
    cases hcodec : r.codecs.get? (SchemaInfo.ofHeaders h').format with
    | none => rfl
    | some c => apply Codec.deserialize_of_sameSchema (hserver _ c hcodec) hsame

/-- Headers count only for the schema info that they carry.  Under two headers of one schema a
serialization makes the same calls, leaves the same cache and the same remote state, and headers of
one schema.  If the codecs make nothing of other headers, it also comes to the same body or failure,
and whatever is read under such headers is what is read under the schema info alone.  The built-in
codecs make nothing of other headers. -/
theorem headers_count_by_schema (r : Registry) (server : Server) (client : Client σ) (t : Token)
    (s : σ) (m : Option Message) (data : Bytes) (hsame : h.SameSchema h') :
  let out := (server.serialize r m h r.cache).run client t s
  let out' := (server.serialize r m h' r.cache).run client t s
  (out.calls = out'.calls ∧ out.cache = out'.cache ∧ out.state = out'.state ∧
    out.result.headers.SameSchema out'.result.headers) ∧
  (server.ReadsSchemaOnly r →
    out.result.body = out'.result.body ∧
    server.deserialize r data h = server.deserialize r data h' ∧
    server.deserialize r data h =
      server.deserialize r data (Registry.headersOf (SchemaInfo.ofHeaders h))) ∧
  ∀ format c, Codec.builtIn? format = some c → c.ReadsSchemaOnly
  := by
  intro out out'
  obtain ⟨hstep, hbody⟩ := inStep_serialize r server m hsame client t s
  refine ⟨⟨hstep.calls, hstep.cache, hstep.state, hstep.headers⟩, ?_, ?_⟩
  · intro hserver
    have hinfo : h.SameSchema (Registry.headersOf (SchemaInfo.ofHeaders h)) :=
      (SchemaInfo.ofHeaders_withSchemaInfo .empty _).symm
    exact ⟨hbody hserver, deserialize_of_sameSchema hserver hsame data,
      deserialize_of_sameSchema hserver hinfo data⟩
  · intro format c hc
    apply Codec.readsSchemaOnly_of_builtIn? hc

/-- The serializers of a standard registry are the built-in ones. -/
theorem get?_codecs_standard (o : Options) (format : DataFormat) :
  (Registry.standard o).codecs.get? format = Codec.builtIn? format
  := by
  cases format <;> rfl

/-- Headers with the schema of `Codec.formerHeaders` in the present keys, the format by its number,
and a header of the application. -/
def presentHeaders : Headers :=
  SortedMap.ofList [(Headers.schemaNameKey, some " "), (Headers.dataFormatKey, some " 1 "),
    ("trace", some "t")]

/-- A record is created and written alike under former keys and under present ones. -/
theorem former_headers_count_as_present :
  let r := (Registry.standard .default).withCatalog (Catalog.registerJson .empty
    Sample.userRegistered.json)
  let m : Message := .record Sample.userRegistered ("ada", "ada@example.org", ())
  let data := Text.Utf8.encode "[]"
  let out := (registry.serialize r (some m) Codec.formerHeaders r.cache).run
    (.inMemory fun _ => .epoch) .live .empty
  let out' := (registry.serialize r (some m) presentHeaders r.cache).run
    (.inMemory fun _ => .epoch) .live .empty
  out'.calls = [.create ⟨⟨"Identity.Schema.UserRegistered", .json⟩, []⟩] ∧
    out'.result.body.toOption.isSome = true ∧
    out.calls = out'.calls ∧ out.state = out'.state ∧ out.result.body = out'.result.body ∧
    registry.deserialize r data Codec.formerHeaders = registry.deserialize r data presentHeaders
  := by
  intro r m data out out'
  have hsame : Codec.formerHeaders.SameSchema presentHeaders := by
    unfold Headers.SameSchema
    decide +kernel
  have hserver : registry.ReadsSchemaOnly r := by
    intro format c hc
    apply Codec.readsSchemaOnly_of_builtIn? ((get?_codecs_standard .default format).symm.trans hc)
  obtain ⟨⟨hcalls, -, hstate, -⟩, hbody, -⟩ := headers_count_by_schema r registry
    (.inMemory fun _ => .epoch) .live .empty (some m) data hsame
  refine ⟨by decide +kernel, by decide +kernel, hcalls, hstate, ?_⟩
  exact ⟨(hbody hserver).1, (hbody hserver).2.1⟩

/-- A codec that reads the number of headers. -/
def headerCounter : Codec :=
  { Codec.stub .json with decode _ headers _ _ := .ok (some (.ofBytes [headers.size.toUInt8])) }

/-- A codec that looks at all headers tells headers of one schema apart, both when it writes and
when it reads. -/
theorem not_headers_count_by_schema :
  (¬ ∀ (r : Registry) (server : Server) (client : Client Store) (t : Token) (s : Store)
      (m : Option Message) (h h' : Headers), h.SameSchema h' →
    ((server.serialize r m h r.cache).run client t s).result.body =
      ((server.serialize r m h' r.cache).run client t s).result.body) ∧
  ¬ ∀ (r : Registry) (server : Server) (data : Bytes) (h h' : Headers), h.SameSchema h' →
    server.deserialize r data h = server.deserialize r data h'
  := by
  have hsame : (Registry.headersOf ⟨"users", .json⟩).SameSchema
      ((Registry.headersOf ⟨"users", .json⟩).set "trace" (some "t")) := by
    unfold Headers.SameSchema
    decide +kernel
  constructor
  · intro h
    have hbody := h ((Registry.new .default).withCodec (.stub .json)) registry
      (.inMemory fun _ => .epoch) .live .empty
      (some (.record Sample.userRegistered ("ada", "ada@example.org", ()))) _ _ hsame
    have hdata := congrArg Except.toOption hbody
    revert hdata
    decide +kernel
  · intro h
    have hread := h (Registry.new .default) (codec headerCounter) [0] _ _ hsame
    have hdata := congrArg (·.toOption.map (·.bind Message.rawBytes?)) hread
    revert hdata
    decide +kernel

end Server

end WireSchemas
