import Mathlib.Data.List.Induction
import WireSchemas.Proofs.Serializer.RoundTrip

/-!
# Kinds kept apart

The catalog has one codec for each message type in each format, the one that was registered last,
whatever was registered in the other format or for other types.  So a message is written only by the
codec of its own kind, and what is read under a schema is a message of the type that the schema is
bound to, and of the kind that was registered last for it: `kinds_kept_apart`.
-/

namespace WireSchemas

/-- The registration of a kind with its codec. -/
inductive Registration where
  | json (codec : MessageCodec)
  | protobuf (codec : MessageCodec)

namespace Registration

/-- The codec that is registered. -/
def codec : Registration → MessageCodec
  | json k => k
  | protobuf k => k

/-- The format that a kind is registered for. -/
def format : Registration → DataFormat
  | json _ => .json
  | protobuf _ => .protobuf

/-- The registration is one of a type in a format. -/
def Concerns (r : Registration) (format : DataFormat) (type : MessageType) : Prop :=
  r.format = format ∧ r.codec.kind.type = type

instance (r : Registration) (format : DataFormat) (type : MessageType) :
    Decidable (r.Concerns format type) :=
  inferInstanceAs (Decidable (_ ∧ _))

/-- The codec that was registered last for a type in a format. -/
def last? (rs : List Registration) (format : DataFormat) (type : MessageType) :
    Option MessageCodec :=
  (rs.filter fun r => r.Concerns format type).getLast?.map codec

variable {rs : List Registration} {format : DataFormat} {type : MessageType} {k : MessageCodec}

theorem last?_concat (rs : List Registration) (r : Registration) (format : DataFormat)
    (type : MessageType) :
  last? (rs ++ [r]) format type = if r.Concerns format type then some r.codec
    else last? rs format type
  := by
  by_cases h : r.Concerns format type <;> simp [last?, List.filter_append, h]

theorem last?_append_of_unconcerned {more : List Registration}
    (h : ∀ r ∈ more, ¬ r.Concerns format type) :
  last? (rs ++ more) format type = last? rs format type
  := by
  have hnone : more.filter (fun r => r.Concerns format type) = [] := by simpa using h
  rw [last?, List.filter_append, hnone, List.append_nil, last?]

theorem type_of_last? (h : last? rs format type = some k) :
  k.kind.type = type
  := by
  obtain ⟨r, hr, rfl⟩ := Option.map_eq_some_iff.1 h
  have hconcerns := List.of_mem_filter (List.mem_of_getLast? hr)
  apply (of_decide_eq_true hconcerns).2

end Registration

/-! ### The catalog -/

namespace Catalog

/-- The catalog after a registration. -/
def register (c : Catalog) : Registration → Catalog
  | .json k => c.registerJson k
  | .protobuf k => c.registerProtobuf k

/-- The catalog after registrations, one after the other. -/
def ofRegistrations (rs : List Registration) : Catalog :=
  rs.foldl register .empty

theorem codec?_empty (format : DataFormat) (type : MessageType) :
  codec? .empty format type = none
  := by
  cases format <;> rfl

theorem json?_eq_entry (c : Catalog) (type : MessageType) :
  c.json? type = (c.entry type).json
  := by
  simp only [json?, entry]
  cases c.get? type <;> rfl

theorem protobuf?_eq_entry (c : Catalog) (type : MessageType) :
  c.protobuf? type = (c.entry type).protobuf
  := by
  simp only [protobuf?, entry]
  cases c.get? type <;> rfl

/-- A new entry of a type is the entry of that type alone. -/
theorem entry_insert (c : Catalog) (type : MessageType) (e : CatalogEntry) (type' : MessageType) :
  entry (c.insert type e) type' = if type = type' then e else c.entry type'
  := by
  by_cases h : type = type'
  · simp [entry, h]
  · simp [entry, h, SortedMap.get?_insert_of_ne c e h]

/-- A registration changes the codec of its own type in its own format, and no other. -/
theorem codec?_register (c : Catalog) (r : Registration) (format : DataFormat)
    (type : MessageType) :
  (c.register r).codec? format type = if r.Concerns format type then some r.codec
    else c.codec? format type
  := by
  by_cases htype : r.codec.kind.type = type
  · subst htype
    cases r <;> cases format <;> simp [codec?, register, registerJson, registerProtobuf,
      json?_eq_entry, protobuf?_eq_entry, entry_insert, Registration.Concerns,
      Registration.format, Registration.codec]
  · have hentry : (c.register r).entry type = c.entry type := by
      cases r <;> exact (entry_insert ..).trans (if_neg htype)
    cases format <;> simp [codec?, json?_eq_entry, protobuf?_eq_entry, hentry,
      Registration.Concerns, htype]

theorem codec?_ofRegistrations (rs : List Registration) (format : DataFormat)
    (type : MessageType) :
  (ofRegistrations rs).codec? format type = Registration.last? rs format type
  := by
  induction rs using List.reverseRecOn with
  | nil => apply codec?_empty
  | append_singleton rs r ih =>
    rw [ofRegistrations, List.foldl_concat, codec?_register, Registration.last?_concat, ← ih]
    rfl

end Catalog

/-! ### Registrations and messages -/

/-- What a body of a type in a format is read as by the codec that was registered last: a message of
the type, and of the kind of that codec. -/
structure Message.ReadAs (m : Message) (rs : List Registration) (format : DataFormat)
    (type : MessageType) (data : Bytes) : Prop where
  type_eq : m.type = type
  value : ∃ k value, Registration.last? rs format type = some k ∧ m = .of k.kind value ∧
    k.form.read data = .ok value

theorem Codec.OfCatalog.deserialize_eq_some_iff {c : Codec} (hc : c.OfCatalog)
    {rs : List Registration} {cache : TypeCache} {headers : Headers} {m : Message}
    {data : Bytes} :
  let info := SchemaInfo.ofHeaders headers
  c.deserialize cache (Catalog.ofRegistrations rs) data headers = .ok (some m) ↔
    info.format = c.format ∧ data ≠ [] ∧
      (c.format = .json → (cache.typeOf info).isMissing = false) ∧
      m.ReadAs rs c.format (cache.typeOf info) data
  := by
  intro info
  rw [Codec.deserialize_eq_some_iff hc.format_ne, hc.decode_eq_ok_iff]
  simp only [Catalog.codec?_ofRegistrations, MessageCodec.decode_eq_ok_iff]
  constructor
  · rintro ⟨hformat, hdata, htype, k, hk, value, rfl, hread⟩
    refine ⟨hformat, hdata, htype, ?_, k, value, hk, rfl, hread⟩
    rw [Message.type_of, Registration.type_of_last? hk]
  · rintro ⟨hformat, hdata, htype, -, k, value, hk, hm, hread⟩
    exact ⟨hformat, hdata, htype, k, hk, value, hm, hread⟩

namespace Catalog

/-- Whatever kinds were registered, in whatever order, under whatever types and with whatever codecs,
the catalog has for a type in a format the codec that was registered last, and neither the other
format nor other types bear on it.  JSON and Protobuf are written for a message of just its kind,
as its form has it, and for any other message there is a failure and no output.  A body in either
format is read as a message of the type that the cache has for the schema, and of the kind that was
registered last for that type; in JSON the missing type is refused first.  So it is for a registry,
too. -/
theorem kinds_kept_apart (rs : List Registration) :
  let catalog := ofRegistrations rs
  (∀ format type, catalog.codec? format type = Registration.last? rs format type ∧
    ∀ more : List Registration, (∀ r ∈ more, r.format = format → r.codec.kind.type ≠ type) →
      (ofRegistrations (rs ++ more)).codec? format type = catalog.codec? format type) ∧
  ∀ c : Codec, c = .json ∨ c = .protobuf →
    (∀ headers m data, c.encode catalog headers m = .ok data ↔
      ∃ k value, Registration.last? rs c.format m.type = some k ∧ m = .of k.kind value ∧
        k.form.write value = .ok data) ∧
    (∀ cache headers m data,
      let info := SchemaInfo.ofHeaders headers
      c.deserialize cache catalog data headers = .ok (some m) ↔
        info.format = c.format ∧ data ≠ [] ∧
          (c.format = .json → (cache.typeOf info).isMissing = false) ∧
          m.ReadAs rs c.format (cache.typeOf info) data) ∧
    ∀ (r : Registry) headers m data, r.catalog = catalog → r.codecs.get? c.format = some c →
      (SchemaInfo.ofHeaders headers).format = c.format →
      r.deserialize data headers = .ok (some m) →
      m.ReadAs rs c.format (r.cache.typeOf (SchemaInfo.ofHeaders headers)) data
  := by
  intro catalog
  have hlast := codec?_ofRegistrations rs
  refine ⟨?_, ?_⟩
  · intro format type
    refine ⟨hlast format type, ?_⟩
    intro more hmore
    rw [codec?_ofRegistrations, hlast]
    apply Registration.last?_append_of_unconcerned
    rintro r hr ⟨hformat, htype⟩
    apply hmore r hr hformat htype
  · intro c hc
    have hcatalog : c.OfCatalog := hc
    refine ⟨?_, fun _ _ _ _ => hcatalog.deserialize_eq_some_iff, ?_⟩
    · intro headers m data
      simp only [hcatalog.encode_eq_ok_iff, MessageCodec.encode_eq_ok_iff, catalog, hlast,
        exists_and_left]
    · rintro r headers m data heq hcodec hformat h
      rw [Registry.deserialize_eq (c := c) (by rw [hformat, hcodec]), heq] at h
      apply (hcatalog.deserialize_eq_some_iff.1 h).2.2.2

/-- Registrations under one type, of a kind in both formats and then of another kind in JSON, and
the registration of a kind of buffers. -/
def mixedRegistrations : List Registration :=
  [.json Sample.userRegistered.json, .protobuf Sample.userRegistered.protobuf,
    .json Sample.impostor.json, .json Sample.byteVector.json]

/-- A registry with these kinds, in which the name `users` is bound to their type. -/
def mixedRegistry : Registry :=
  { (Registry.standard .default).withCatalog (ofRegistrations mixedRegistrations) with
    cache := TypeCache.empty.bind Sample.impostor.type ⟨"users", .json⟩ }

/-- A user is still written in Protobuf and no longer in JSON, where a body is read as a record of
the other kind.  A buffer is written as the list of its bytes. -/
theorem impostor_kept_apart :
  let catalog := ofRegistrations mixedRegistrations
  let headers := Registry.headersOf ⟨"users", .json⟩
  let user : Message := .record Sample.userRegistered ("ada", "ada@example.org", ())
  let impostor : Message := .record Sample.impostor (7, ())
  let body := Text.Utf8.encode "\x7b\"code\":7\x7d"
  (ofRegistrations (mixedRegistrations ++
      [.protobuf Sample.impostor.protobuf, .json Sample.ping.json])).codec? .json user.type =
        some Sample.impostor.json ∧
    (∀ data, Codec.json.encode catalog headers user ≠ .ok data) ∧
    (∃ data, Codec.protobuf.encode catalog headers user = .ok data) ∧
    Codec.json.encode catalog headers (.raw Sample.byteVector [1, 255]) =
      .ok (Text.Utf8.encode "[1,255]") ∧
    mixedRegistry.deserialize body headers = .ok (some impostor) ∧
    impostor.ReadAs mixedRegistrations .json user.type body
  := by
  intro catalog headers user impostor body
  obtain ⟨hcodecs, hformats⟩ := kinds_kept_apart mixedRegistrations
  obtain ⟨hwritten, hread, hregistry⟩ := hformats .json (.inl rfl)
  obtain ⟨hprotobuf, -⟩ := hformats .protobuf (.inr rfl)
  have hlast : Registration.last? mixedRegistrations .json user.type = some Sample.impostor.json :=
    rfl
  have hformat : (SchemaInfo.ofHeaders headers).format = .json := by decide +kernel
  have htype : mixedRegistry.cache.typeOf (SchemaInfo.ofHeaders headers) = user.type := by
    decide +kernel
  let content : Sample.impostor.shape.Record := (7, ())
  have hcode : Sample.impostor.decodeJson body = some content := by decide +kernel
  have hbody : mixedRegistry.deserialize body headers = .ok (some impostor) := by
    rw [Registry.deserialize_eq (c := .json) (by rw [hformat]; rfl)]
    apply (hread mixedRegistry.cache headers impostor body).2
    rw [htype]
    refine ⟨hformat, by decide +kernel, fun _ => rfl, rfl, _, content, hlast, rfl, ?_⟩
    simp only [RecordKind.json, hcode, Option.elim]
  refine ⟨?_, ?_, ?_, ?_, hbody, ?_⟩
  · obtain ⟨hk, hmore⟩ := hcodecs .json user.type
    rw [hmore _ (by decide), hk, hlast]
  · intro data h
    obtain ⟨k, value, hk, hm, -⟩ := (hwritten headers user data).1 h
    obtain rfl := Option.some.inj (hlast.symm.trans hk)
    have hkinds : Kind.record Sample.userRegistered = .record Sample.impostor :=
      (congrArg Message.kind hm).trans (Message.kind_of _ value)
    revert hkinds
    decide
  · use Sample.userRegistered.encodeProtobuf ("ada", "ada@example.org", ())
    apply (hprotobuf headers user _).2
    exact ⟨Sample.userRegistered.protobuf, _, rfl, rfl, rfl⟩
  · apply (hwritten headers _ _).2
    exact ⟨Sample.byteVector.json, _, rfl, rfl, by decide +kernel⟩
  · rw [← htype]
    apply hregistry mixedRegistry headers impostor body rfl rfl hformat hbody

end Catalog

end WireSchemas
