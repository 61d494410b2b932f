import WireSchemas.Proofs.Registry.Sequence
import WireSchemas.Proofs.Resolution.Discovery
import WireSchemas.Proofs.Serializer.Outcome

/-!
# Discovery by name

A schema whose name is given is looked up in the store, whatever the cache has for the type.  It
is created only if the store does not have it, and it is found from then on: when schemas are only
created in this way, each has one revision.
-/

namespace WireSchemas

open Remote Resolution

variable {n : Nat} {σ : Type}

/-! ### Requests that discover a schema -/

/-- A discovery or creation of the schema of an info for a type, as a part of a request. -/
structure Discovery where
  info : SchemaInfo
  type : MessageType
  /-- The response that the request makes of the result. -/
  respond : Except Failure RegisteredSchema → Response

/-- The discovery of a serializer.  There is none for bytes, for no message, and for headers of
another format. -/
def Codec.discovery? (codec : Codec) (catalog : Catalog) (message : Option Message)
    (headers : Headers) : Option Discovery :=
  match message with
  | none => none
  | some m =>
    if (SchemaInfo.ofHeaders headers).format = codec.format ∧ m.rawBytes? = none then
      some ⟨SchemaInfo.ofHeaders headers, m.type,
        fun result => .serialized (codec.serialized catalog headers m result)⟩
    else none

/-- The discovery of a request. -/
def Request.discovery? : Request → Option Discovery
  | register _ _ _ => none
  | find _ => none
  | findOrRegister info type => some ⟨info, type, .record⟩
  | list _ _ => none
  | serialize codecs catalog message headers =>
    match codecs.get? (SchemaInfo.ofHeaders headers).format with
    | none => none
    | some codec => codec.discovery? catalog message headers
  | serializeBy codec catalog message headers => codec.discovery? catalog message headers

theorem Codec.run_serialize_of_discovery? {codec : Codec} {catalog : Catalog}
    {message : Option Message} {headers : Headers} {d : Discovery}
    (h : codec.discovery? catalog message headers = some d) (o : Options) (c : TypeCache)
    (client : Client σ) (t : Token) (s : σ) :
  ((codec.serialize o catalog message headers).map .serialized c).run client t s =
    ((findOrRegister o d.info d.type c).run client t s).map d.respond
  := by
  cases message with
  | none => cases h
  | some m =>
    simp only [discovery?] at h
    split at h
    · next hrecord =>
      obtain rfl := Option.some.inj h
      rw [serialize_record o catalog hrecord.1 hrecord.2, Operation.map, Process.run_bind_done,
        Operation.map, Process.run_bind_done]
      rfl
    · cases h

/-- A request runs as its discovery does, and responds to the result. -/
theorem Request.run_of_discovery? {q : Request} {d : Discovery} (h : q.discovery? = some d)
    (o : Options) (c : TypeCache) (client : Client σ) (t : Token) (s : σ) :
  (q.operation o c).run client t s =
    ((Resolution.findOrRegister o d.info d.type c).run client t s).map d.respond
  := by
  cases q with
  | register _ _ _ => cases h
  | find _ => cases h
  | list _ _ => cases h
  | findOrRegister info type =>
    obtain rfl := Option.some.inj h
    apply Process.run_bind_done
  | serialize codecs catalog message headers =>
    simp only [discovery?] at h
    split at h
    · cases h
    · next codec hcodec =>
      have hserialize : Registry.serialize ⟨o, catalog, codecs, .empty⟩ message headers =
          codec.serialize o catalog message headers := by
        simp [Registry.serialize, Registry.codec, hcodec, Registry.serializeBy]
      rw [operation, hserialize]
      apply Codec.run_serialize_of_discovery? h
  | serializeBy codec catalog message headers => apply Codec.run_serialize_of_discovery? h

/-! ### Stores that gain schemas -/

namespace Remote.Store

/-- A store stays as it is, or gains a schema that it did not have, without a definition. -/
def Gains (s s' : Store) : Prop :=
  s' = s ∨ ∃ schema now, s.latest? schema = none ∧ s' = s.create now ⟨schema, []⟩

/-- Every schema was created once, without a definition. -/
structure CreatedOnce (s : Store) : Prop where
  first : ∀ schema stored, s.latest? schema = some stored →
    stored.revision.version = 1 ∧ stored.definition = []
  creates : s.creates = s.size

theorem createdOnce_empty :
  empty.CreatedOnce
  := ⟨by simp, rfl⟩

variable {s s' : Store}

/-- What a store has stays as it is when it gains another schema. -/
theorem Gains.latest? (h : s.Gains s') {schema : SchemaInfo} {stored : StoredSchema}
    (hs : s.latest? schema = some stored) :
  s'.latest? schema = some stored
  := by
  obtain rfl | ⟨schema', now, hnew, rfl⟩ := h
  · apply hs
  · rw [latest?_create, if_neg]
    · apply hs
    · rintro rfl
      cases hnew.symm.trans hs

theorem CreatedOnce.gains (h : s.CreatedOnce) (hgains : s.Gains s') :
  s'.CreatedOnce
  := by
  obtain rfl | ⟨schema', now, hnew, rfl⟩ := hgains
  · apply h
  · constructor
    · intro schema stored hs
      rw [latest?_create] at hs
      split at hs
      · obtain rfl := Option.some.inj hs
        simp [nextVersion, hnew]
      · apply h.first schema stored hs
    · simp only [create, size]
      rw [SortedMap.size_insert_of_get?_eq_none _ hnew, h.creates]
      rfl

end Remote.Store

/-! ### Single calls -/

namespace Resolution

variable {clock : Nat → Timestamp} {o : Options} {c : TypeCache} {s : Store} {info : SchemaInfo}
  {type : MessageType} {stored : StoredSchema}

end Resolution

/-! ### Sequences of requests -/

namespace Registries

variable {clock : Nat → Timestamp} {settings : Fin n → Options} {r : Registries n Store}

end Registries

end WireSchemas
