import WireSchemas.Proofs.Codec
import WireSchemas.Proofs.Headers.Wire
import WireSchemas.Proofs.Message.Json
import WireSchemas.Proofs.Message.Protobuf
import WireSchemas.Proofs.Serializer.Outcome

/-!
# Messages there and back

What a registry has written is read by the same registry, under the headers that were left, as the
message that was written, as far as the codec of its kind reads what it writes.  The headers may
travel over the wire in between.
-/

namespace WireSchemas

open Remote Resolution

variable {σ : Type} {headers : Headers} {m : Message} {data : Bytes}

/-! ### Serializers -/

namespace Codec

variable {c : Codec} {o : Options} {catalog : Catalog}

/-- The body of a record is what the codec writes under the headers that are left.  They name a
schema in the format of the codec, and the cache gives the type of the record for it. -/
theorem serialize_written (client : Client σ) (t : Token) (s : σ) (cache : TypeCache)
    (hrecord : m.rawBytes? = none) (htype : m.type.isMissing = false) :
  let out := (c.serialize o catalog (some m) headers cache).run client t s
  out.result.body = .ok data →
    c.encode catalog out.result.headers m = .ok data ∧
      (SchemaInfo.ofHeaders out.result.headers).format = c.format ∧
      out.cache.typeOf (SchemaInfo.ofHeaders out.result.headers) = m.type
  := by
  intro out hbody
  by_cases hformat : (SchemaInfo.ofHeaders headers).format = c.format
  · obtain ⟨hout, hresolves⟩ :=
      resolves_serialize_record o catalog hformat hrecord client t s cache
    change out.result = _ at hout
    rw [hout] at hbody ⊢
    cases hfound : ((findOrRegister o _ m.type cache).run client t s).result with
    | error f =>
      rw [hfound] at hbody
      cases hbody
    | ok record =>
      rw [hfound] at hbody hresolves
      have hagrees := hresolves.agrees record rfl
      have hinfo : SchemaInfo.ofHeaders (c.serialized catalog headers m (.ok record)).headers =
          record.info := ofHeaders_nameHeaders hagrees
      rw [hinfo]
      exact ⟨encode_of_encodeResolved hbody, hagrees.format.trans hformat,
        hresolves.typeOf htype⟩
  · have hout : out = _ :=
      congrArg (·.run client t s) (serialize_of_format_ne o catalog (some m) hformat cache)
    rw [hout] at hbody
    cases hbody

end Codec

/-! ### Registries -/

namespace Registry

variable {r : Registry} {c : Codec}

/-- A registry serializes and deserializes under headers as the serializer of their format does. -/
theorem serialize_eq (hcodec : r.codecs.get? (SchemaInfo.ofHeaders headers).format = some c)
    (m : Option Message) :
  r.serialize m headers = c.serialize r.options r.catalog m headers
  := by
  simp [serialize, codec, hcodec, serializeBy]

theorem deserialize_eq (hcodec : r.codecs.get? (SchemaInfo.ofHeaders headers).format = some c)
    (data : Bytes) :
  r.deserialize data headers = c.deserialize r.cache r.catalog data headers
  := by
  simp [deserialize, codec, hcodec, deserializeBy]

/-- A record that a registry has written was written by the codec that the catalog has for its type.
The registry reads the body as that codec does, and an empty body as no message. -/
theorem written_deserialize (hc : c.OfCatalog) (hcodec : r.codecs.get? c.format = some c)
    (client : Client σ) (t : Token) (s : σ)
    (hformat : (SchemaInfo.ofHeaders headers).format = c.format) (hrecord : m.rawBytes? = none)
    (htype : m.type.isMissing = false) :
  let after := r.perform client t s (r.serialize (some m) headers)
  let left := after.2.result.headers
  after.2.result.body = .ok data →
    ∃ k, r.catalog.codec? c.format m.type = some k ∧ k.encode m = .ok data ∧
      (data ≠ [] → k.decode data = .ok m → after.1.deserialize data left = .ok (some m)) ∧
      (data = [] → after.1.deserialize data left = .ok none)
  := by
  intro after left hbody
  have hserializer := hformat ▸ hcodec
  simp only [left, after, perform, serialize_eq hserializer] at hbody ⊢
  obtain ⟨hencode, hformat', htypeOf⟩ :=
    Codec.serialize_written client t s r.cache hrecord htype hbody
  obtain ⟨k, hk, hdata⟩ := hc.encode_eq_ok_iff.1 hencode
  rw [deserialize_eq (c := c) (by rw [hformat']; exact hcodec)]
  refine ⟨k, hk, hdata, ?_, ?_⟩
  · intro hne hmessage
    rw [Codec.deserialize_eq_some_iff hc.format_ne, htypeOf, hc.decode_eq_ok_iff]
    exact ⟨hformat', hne, fun _ => htype, k, hk, hmessage⟩
  · rintro rfl
    apply Codec.deserialize_nil hformat'

/-- What a registry writes in JSON it reads back from the wire as the same message, whatever the
remote registry answers, whatever the cache was before and by whichever keys the headers gave the
schema.  All that is asked of the codec of the kind is that it reads back what it writes of the
message, and that this is not empty, as no JSON text is. -/
theorem json_delivered (r : Registry) (hjson : r.codecs.get? .json = some .json)
    (client : Client σ) (t : Token) (s : σ) (headers : Headers)
    (hformat : (SchemaInfo.ofHeaders headers).format = .json) (m : Message)
    (hrecord : m.rawBytes? = none) (htype : m.type.isMissing = false)
    (hcodec : ∀ k, r.catalog.json? m.type = some k → k.Restores m)
    (htext : ∀ k, r.catalog.json? m.type = some k → k.encode m ≠ .ok []) :
  let after := r.perform client t s (r.serialize (some m) headers)
  ∀ data, after.2.result.body = .ok data →
    after.1.deserialize data (Headers.decode after.2.result.headers.encode) = .ok (some m)
  := by
  intro after data hbody
  obtain ⟨k, hk, hdata, hread, -⟩ :=
    written_deserialize (c := .json) (.inl rfl) hjson client t s hformat hrecord htype hbody
  rw [Headers.decode_encode]
  apply hread _ (hcodec k hk data hdata)
  rintro rfl
  apply htext k hk hdata

/-- A registry of orders and pings, both in JSON and in Protobuf. -/
def shop : Registry :=
  (standard .default).withCatalog <| [Sample.orderPlaced, Sample.ping].foldl
    (fun catalog k => (catalog.registerJson k.json).registerProtobuf k.protobuf) .empty

/-- What an order with something in every field holds. -/
def orderContent : Sample.orderPlaced.shape.Record :=
  ("o-1", 3, some "ring \"twice\"", ["café", ""], 1999, true, -2, some ("Main", 8001, ()), [1, -1],
    ())

/-- The order as a message. -/
def order : Message :=
  .record Sample.orderPlaced orderContent

/-- A remote registry that has one schema under an odd version. -/
def answers : Client.Script :=
  ⟨[], [.ok (some ⟨⟨"r", -1, .epoch⟩, []⟩)]⟩

theorem order_delivered_json :
  let headers := Codec.formerHeaders.set Headers.formerNameKey (some "orders\n")
  let after := shop.perform .scripted .live answers (shop.serialize (some order) headers)
  ∃ data, after.2.result.body = .ok data ∧
    after.1.deserialize data (Headers.decode after.2.result.headers.encode) = .ok (some order)
  := by
  intro headers after
  have hbody : after.2.result.body.toOption.isSome = true := by decide +kernel
  have hk : ∀ k, shop.catalog.json? order.type = some k → Sample.orderPlaced.json = k :=
    fun _ => Option.some.inj
  have hcodec : Sample.orderPlaced.json.Restores order := by
    apply RecordKind.restores_json
    decide +kernel
  cases hdata : after.2.result.body with
  | error f => simp [hdata, Except.toOption] at hbody
  | ok data =>
    use data, rfl
    refine json_delivered shop rfl .scripted .live answers headers (by decide +kernel) order rfl
      rfl ?_ ?_ data hdata
    · rintro k hk'
      obtain rfl := hk k hk'
      apply hcodec
    · rintro k hk'
      obtain rfl := hk k hk'
      apply RecordKind.encode_json_ne_nil

/-- When defaults are not written in Protobuf, a message is written as no bytes just when it is the
default one of its kind, and no bytes are read as no message.  Every other message that a registry
writes it reads back as the same one.  The codec of the kind is asked to read back what it writes of
the message and of the default one. -/
theorem protobuf_delivered (r : Registry) (hprotobuf : r.codecs.get? .protobuf = some .protobuf)
    (client : Client σ) (t : Token) (s : σ) (headers : Headers)
    (hformat : (SchemaInfo.ofHeaders headers).format = .protobuf) (m : Message)
    (hrecord : m.rawBytes? = none) (htype : m.type.isMissing = false)
    (hcodec : ∀ k, r.catalog.protobuf? m.type = some k →
      k.Restores m ∧ k.Restores (.default k.kind))
    (hdefaults : ∀ k, r.catalog.protobuf? m.type = some k → k.OmitsDefaults) :
  let after := r.perform client t s (r.serialize (some m) headers)
  ∀ data, after.2.result.body = .ok data →
    (data = [] ↔ m = .default m.kind) ∧
    (m ≠ .default m.kind →
      after.1.deserialize data after.2.result.headers = .ok (some m)) ∧
    (m = .default m.kind → after.1.deserialize data after.2.result.headers = .ok none)
  := by
  intro after data hbody
  obtain ⟨k, hk, hdata, hread, hempty⟩ := written_deserialize (c := .protobuf) (.inr rfl)
    hprotobuf client t s hformat hrecord htype hbody
  obtain ⟨hrestores, hrestoresDefault⟩ := hcodec k hk
  have hdefault : data = [] ↔ m = .default m.kind := by
    rw [MessageCodec.kind_of_encode hdata]
    apply (hdefaults k hk).eq_nil_iff hrestores hrestoresDefault hdata
  refine ⟨hdefault, ?_, ?_⟩
  · intro hne
    apply hread (hdefault.not.2 hne) (hrestores data hdata)
  · intro heq
    apply hempty (hdefault.2 heq)

/-- Headers that ask for Protobuf under a known name. -/
def protobufHeaders : Headers :=
  headersOf ⟨"orders", .protobuf⟩

theorem order_delivered_protobuf :
  let after := shop.perform .scripted .live answers (shop.serialize (some order) protobufHeaders)
  ∃ data, after.2.result.body = .ok data ∧ data ≠ [] ∧
    after.1.deserialize data after.2.result.headers = .ok (some order)
  := by
  intro after
  have hbody : after.2.result.body.toOption.isSome = true := by decide +kernel
  have hk : ∀ k, shop.catalog.protobuf? order.type = some k → Sample.orderPlaced.protobuf = k :=
    fun _ => Option.some.inj
  have hcodec : Sample.orderPlaced.protobuf.Restores order := by
    apply RecordKind.restores_protobuf
    decide +kernel
  have hcodecDefault : Sample.orderPlaced.protobuf.Restores (.default (.record Sample.orderPlaced))
    := by
    apply RecordKind.restores_protobuf
    decide +kernel
  have hne : order ≠ .default order.kind := by
    intro heq
    have hcontent : orderContent ≠ Sample.orderPlaced.shape.default := by decide +kernel
    apply hcontent (eq_of_heq (Message.record.inj heq).2)
  cases hdata : after.2.result.body with
  | error f => simp [hdata, Except.toOption] at hbody
  | ok data =>
    obtain ⟨hempty, hread, -⟩ := protobuf_delivered shop rfl .scripted .live answers
      protobufHeaders (by decide +kernel) order rfl rfl
      (by
        rintro k hk'
        obtain rfl := hk k hk'
        exact ⟨hcodec, hcodecDefault⟩)
      (by
        rintro k hk'
        obtain rfl := hk k hk'
        apply RecordKind.omitsDefaults_protobuf) data hdata
    exact ⟨data, rfl, hempty.not.2 hne, hread hne⟩

/-- A default message is there when it is written and is not when it is read, even if its codec
reads back all that it writes. -/
theorem not_default_delivered :
  ¬ ∀ (σ : Type) (r : Registry) (client : Client σ) (t : Token) (s : σ) (headers : Headers)
      (m : Message),
    let after := r.perform client t s (r.serialize (some m) headers)
    r.codecs.get? .protobuf = some .protobuf →
      (SchemaInfo.ofHeaders headers).format = .protobuf → m.rawBytes? = none →
      m.type.isMissing = false →
      (∃ k, r.catalog.protobuf? m.type = some k ∧ k.kind = m.kind ∧ (∀ m', k.Restores m') ∧
        k.OmitsDefaults) →
      ∀ data, after.2.result.body = .ok data →
        after.1.deserialize data after.2.result.headers = .ok (some m)
  := by
  intro h
  have hrestores : ∀ m, Sample.ping.protobuf.Restores m := by
    intro m data hdata
    obtain ⟨content, rfl, -⟩ := MessageCodec.encode_eq_ok_iff.1 hdata
    have hping : Sample.ping.protobuf.Restores (.record Sample.ping content) :=
      RecordKind.restores_protobuf rfl
    apply hping data hdata
  have hread := h Client.Script shop .scripted .live answers protobufHeaders
    (.record Sample.ping ()) rfl (by decide +kernel) rfl rfl
    ⟨_, rfl, rfl, hrestores, Sample.ping.omitsDefaults_protobuf⟩ [] (by decide +kernel)
  have hempty := congrArg (·.toOption.map Option.isSome) hread
  revert hempty
  decide +kernel

end Registry

end WireSchemas
