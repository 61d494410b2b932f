import Mathlib.Data.List.Induction
import WireSchemas.Proofs.Serializer.Shortcuts

/-!
# The serializer of a format

A registry keeps the serializer that was installed last for each format, under the very format of
that serializer.  So what it hands on is never refused for its format, and it misses a serializer
just when none was installed: `dispatch_exact`.
-/

namespace WireSchemas

open Remote Resolution

/-- A failure to find the serializer of a format. -/
def Failure.IsDispatch : Failure → Prop
  | serializerNotFound _ _ => True
  | unsupportedFormat _ _ => True
  | _ => False

theorem Failure.IsDispatch.not_isRefusal {f : Failure} (h : f.IsDispatch) :
  ¬ f.IsRefusal
  := by
  cases f <;> simp_all [IsDispatch, IsRefusal]

/-! ### Serializers of their own format -/

namespace Codec

variable {σ : Type} {c : Codec} {headers : Headers} {f : Failure}

/-- A resolved message is not refused for its format. -/
theorem body_serialized_iff {catalog : Catalog} {m : Message} (hf : f.IsDispatch)
    {result : Except Failure RegisteredSchema} :
  (c.serialized catalog headers m result).body = .error f ↔ result = .error f
  := by
  cases result with
  | error g => simp [serialized]
  | ok record =>
    simp only [serialized, reduceCtorEq, iff_false]
    intro hbody
    obtain ⟨cause, rfl⟩ := encodingFailed_of_encodeResolved hbody
    cases hf

/-- A serializer does not refuse what has its own format, unless the remote registry has said so
itself. -/
theorem body_serialize_iff (hformat : (SchemaInfo.ofHeaders headers).format = c.format)
    (hf : f.IsDispatch) (o : Options) (catalog : Catalog) (m : Option Message)
    (client : Client σ) (t : Token) (s : σ) (cache : TypeCache) :
  let call := c.serialize o catalog m headers cache
  (call.run client t s).result.body = .error f ↔
    ∃ x ∈ call.heard client t s, x.failure? = some f
  := by
  intro call
  cases himmediate : c.immediate? (SchemaInfo.ofHeaders headers) m with
  | some body =>
    have hbody : body ≠ .error f := by
      rintro rfl
      apply immediate?_ne_error hformat himmediate
    simp [call, serialize_of_immediate? himmediate, Process.run, Process.heard, hbody]
  | none =>
    obtain ⟨-, m, rfl, hraw⟩ := exists_record_of_immediate?_eq_none himmediate
    obtain ⟨hout, hresolves⟩ :=
      resolves_serialize_record o catalog hformat hraw client t s cache
    rw [hout, body_serialized_iff hf]
    constructor
    · intro hfound
      apply (hresolves.faithful.own f hfound).resolve_right hf.not_isRefusal
    · rintro ⟨x, hx, hxf⟩
      apply hresolves.faithful.passes x hx f hxf

theorem deserialize_ne_error (hformat : (SchemaInfo.ofHeaders headers).format = c.format)
    (hf : f.IsDispatch) (cache : TypeCache) (catalog : Catalog) (data : Bytes) :
  c.deserialize cache catalog data headers ≠ .error f
  := by
  simp only [deserialize, Codec.guard, if_pos hformat]
  split
  · simp
  split
  · simp
  split
  · simp
  · rintro ⟨⟩
    cases hf

end Codec

/-! ### Installed serializers -/

namespace Registry

/-- The serializer that was installed last for a format. -/
def serving? (codecs : List Codec) (format : DataFormat) : Option Codec :=
  (codecs.filter fun c => c.format = format).getLast?

theorem serving?_concat (codecs : List Codec) (c : Codec) (format : DataFormat) :
  serving? (codecs ++ [c]) format = if c.format = format then some c else serving? codecs format
  := by
  by_cases h : c.format = format <;> simp [serving?, List.filter_append, h]

theorem serving?_eq_none_iff {codecs : List Codec} {format : DataFormat} :
  serving? codecs format = none ↔ ∀ c ∈ codecs, c.format ≠ format
  := by
  simp [serving?]

theorem mem_of_serving? {codecs : List Codec} {format : DataFormat} {c : Codec}
    (h : serving? codecs format = some c) :
  c ∈ codecs
  := List.mem_of_mem_filter (List.mem_of_getLast? h)

theorem format_of_serving? {codecs : List Codec} {format : DataFormat} {c : Codec}
    (h : serving? codecs format = some c) :
  c.format = format
  := by
  simpa using List.of_mem_filter (List.mem_of_getLast? h)

/-- A registry with given settings, kinds and bindings after serializers were installed one after
the other. -/
def installed (o : Options) (codecs : List Codec) (catalog : Catalog) (cache : TypeCache) :
    Registry :=
  { (new o).withCodecs codecs with catalog, cache }

variable {σ : Type} (o : Options) (codecs : List Codec) (catalog : Catalog) (cache : TypeCache)

theorem withCodecs_concat (r : Registry) (c : Codec) :
  r.withCodecs (codecs ++ [c]) = (r.withCodecs codecs).withCodec c
  := List.foldl_concat ..

@[simp]
theorem options_installed :
  (installed o codecs catalog cache).options = o
  := by
  induction codecs using List.reverseRecOn with
  | nil => rfl
  | append_singleton codecs c ih =>
    rw [installed, withCodecs_concat]
    apply ih

/-- The table of a registry holds the serializers that were installed last. -/
theorem get?_installed (format : DataFormat) :
  (installed o codecs catalog cache).codecs.get? format = serving? codecs format
  := by
  induction codecs using List.reverseRecOn with
  | nil => rfl
  | append_singleton codecs c ih =>
    rw [serving?_concat, ← ih]
    simp only [installed, withCodecs_concat, withCodec]
    split
    · next h => rw [h, SortedMap.get?_insert_self]
    · next h => rw [SortedMap.get?_insert_of_ne _ _ h]

/-- The formats of a registry are those of the serializers that were installed. -/
theorem mem_formats_installed {format : DataFormat} :
  format ∈ (installed o codecs catalog cache).formats ↔ ∃ c ∈ codecs, c.format = format
  := by
  rw [formats, SortedMap.mem_keys_iff, get?_installed, ← Option.ne_none_iff_isSome, ne_eq,
    serving?_eq_none_iff]
  simp

theorem pairwise_formats (r : Registry) :
  r.formats.Pairwise fun a b => a.number < b.number
  := (SortedMap.pairwise_keys r.codecs).imp fun h => Nat.compare_eq_lt.1 h

/-! ### Dispatch -/

section

variable {r : Registry} {headers : Headers} {f : Failure}

theorem serialize_of_get?_eq_none
    (hnone : r.codecs.get? (SchemaInfo.ofHeaders headers).format = none) (m : Option Message)
    (cache : TypeCache) :
  r.serialize m headers cache = .done cache
    ⟨headers, .error (.serializerNotFound (SchemaInfo.ofHeaders headers).format r.formats)⟩
  := by
  simp [serialize, codec, hnone]

theorem deserialize_of_get?_eq_none
    (hnone : r.codecs.get? (SchemaInfo.ofHeaders headers).format = none) (data : Bytes) :
  r.deserialize data headers =
    .error (.serializerNotFound (SchemaInfo.ofHeaders headers).format r.formats)
  := by
  simp [deserialize, codec, hnone]

/-- A registry whose serializers have the formats that they are kept under misses a serializer, or
passes on what the remote registry has said. -/
theorem body_serialize_iff {format : DataFormat}
    (hformat : (SchemaInfo.ofHeaders headers).format = format)
    (hkept : ∀ c, r.codecs.get? format = some c → c.format = format) (hf : f.IsDispatch)
    (m : Option Message) (client : Client σ) (t : Token) (s : σ) (cache : TypeCache) :
  let call := r.serialize m headers cache
  (call.run client t s).result.body = .error f ↔
    r.codecs.get? format = none ∧ f = .serializerNotFound format r.formats ∨
      ∃ x ∈ call.heard client t s, x.failure? = some f
  := by
  intro call
  subst hformat
  cases hcodec : r.codecs.get? (SchemaInfo.ofHeaders headers).format with
  | none =>
    simp [call, serialize_of_get?_eq_none hcodec, Process.run, Process.heard, eq_comm]
  | some c =>
    simp only [call, serialize_eq hcodec, reduceCtorEq, false_and, false_or]
    apply Codec.body_serialize_iff (hkept c hcodec).symm hf

theorem deserialize_iff {format : DataFormat}
    (hformat : (SchemaInfo.ofHeaders headers).format = format)
    (hkept : ∀ c, r.codecs.get? format = some c → c.format = format) (hf : f.IsDispatch)
    (data : Bytes) :
  r.deserialize data headers = .error f ↔
    r.codecs.get? format = none ∧ f = .serializerNotFound format r.formats
  := by
  subst hformat
  cases hcodec : r.codecs.get? (SchemaInfo.ofHeaders headers).format with
  | none => simp [deserialize_of_get?_eq_none hcodec, eq_comm]
  | some c =>
    simp only [deserialize_eq hcodec, reduceCtorEq, false_and, iff_false]
    apply Codec.deserialize_ne_error (hkept c hcodec).symm hf

end

/-- A registry in which serializers were installed one after the other, any of them repeatedly,
knows just their formats.  It fails at once and without a trace for a format that none of them has,
and for any other does as the last of that format does.  Over a client that fails remotely,
serializers are not found, or refuse a format, in no other case.  Any other client may itself answer
with such a failure, which is passed on. -/
theorem dispatch_exact (client : Client σ) (t : Token) (s : σ) (m : Option Message) (data : Bytes)
    (headers : Headers) :
  let r := installed o codecs catalog cache
  let format := (SchemaInfo.ofHeaders headers).format
  let absent := ∀ c ∈ codecs, c.format ≠ format
  let missed : Failure := .serializerNotFound format r.formats
  let call := r.serialize m headers cache
  let out := call.run client t s
  r.formats.Pairwise (fun a b => a.number < b.number) ∧
  (∀ f, f ∈ r.formats ↔ ∃ c ∈ codecs, c.format = f) ∧
  (absent → out = .unmoved ⟨headers, .error missed⟩ cache s t ∧
    r.deserialize data headers = .error missed) ∧
  (¬ absent → ∃ c ∈ codecs, serving? codecs format = some c ∧ c.format = format ∧
    call = c.serialize o catalog m headers cache ∧
    r.deserialize data headers = c.deserialize cache catalog data headers) ∧
  ∀ f : Failure, f.IsDispatch →
    (r.deserialize data headers = .error f ↔ absent ∧ f = missed) ∧
    (client.FailsRemotely → (out.result.body = .error f ↔ absent ∧ f = missed)) ∧
    (out.result.body = .error f ↔
      absent ∧ f = missed ∨ ∃ x ∈ call.heard client t s, x.failure? = some f)
  := by
  intro r format absent missed call out
  have hget : r.codecs.get? format = serving? codecs format :=
    get?_installed o codecs catalog cache format
  have habsent : r.codecs.get? format = none ↔ absent := by rw [hget, serving?_eq_none_iff]
  have hkept : ∀ c, r.codecs.get? format = some c → c.format = format := by
    intro c hc
    apply format_of_serving? (hget.symm.trans hc)
  refine ⟨r.pairwise_formats, fun f => mem_formats_installed o codecs catalog cache, ?_, ?_, ?_⟩
  · intro h
    have hnone := habsent.2 h
    refine ⟨?_, deserialize_of_get?_eq_none hnone data⟩
    simp only [out, call, serialize_of_get?_eq_none hnone]
    rfl
  · intro h
    obtain ⟨c, hcodec⟩ := Option.ne_none_iff_exists'.1 (habsent.not.2 h)
    have hserving := hget.symm.trans hcodec
    refine ⟨c, mem_of_serving? hserving, hserving, hkept c hcodec, ?_, deserialize_eq hcodec data⟩
    simp only [call, serialize_eq hcodec, r, options_installed]
    rfl
  · intro f hf
    have hbody : out.result.body = .error f ↔
        absent ∧ f = missed ∨ ∃ x ∈ call.heard client t s, x.failure? = some f := by
      rw [← habsent]
      apply body_serialize_iff rfl hkept hf
    refine ⟨?_, ?_, hbody⟩
    · rw [← habsent]
      apply deserialize_iff rfl hkept hf
    · intro hremote
      rw [hbody, or_iff_left_iff_imp]
      rintro ⟨x, hx, hxf⟩
      rcases Process.failure_heard hremote hx hxf with rfl | ⟨text, rfl⟩
      · cases hf
      · cases hf

/-- The formats that are missed are listed once each and in order, however often and in whatever
order serializers were installed. -/
theorem bytes_missed :
  let headers := headersOf ⟨"users", .bytes⟩
  let r := installed .default [.protobuf, .json, .protobuf] .empty .empty
  let missed : Failure := .serializerNotFound .bytes [.json, .protobuf]
  r.deserialize [0] headers = .error missed ∧
    ∀ m t s, ((r.serialize m headers .empty).run (.inMemory fun _ => .epoch) t s).result.body =
      .error missed
  := by
  intro headers r missed
  have hmissed : (∀ c ∈ [Codec.protobuf, .json, .protobuf],
      c.format ≠ (SchemaInfo.ofHeaders headers).format) ∧
      missed = .serializerNotFound (SchemaInfo.ofHeaders headers).format r.formats := by
    decide +kernel
  constructor
  · obtain ⟨-, -, -, -, hdispatch⟩ := dispatch_exact .default [.protobuf, .json, .protobuf] .empty
      .empty (.inMemory fun _ => .epoch) .live .empty none [0] headers
    apply (hdispatch missed trivial).1.2 hmissed
  · intro m t s
    obtain ⟨-, -, -, -, hdispatch⟩ := dispatch_exact .default [.protobuf, .json, .protobuf] .empty
      .empty (.inMemory fun _ => .epoch) t s m [0] headers
    apply ((hdispatch missed trivial).2.1 (Client.failsRemotely_inMemory _)).2 hmissed

end Registry

end WireSchemas
