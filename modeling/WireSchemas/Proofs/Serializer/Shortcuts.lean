import WireSchemas.Proofs.Remote.Heard
import WireSchemas.Proofs.Serializer.RoundTrip

/-!
# Shortcuts of serializers

A serializer refuses another format than its own before it looks at anything else, and then lets
absent messages, raw bytes and empty bodies through without a schema.  All this happens without a
call and without a trace, also under a token that has fired.  What is left takes a look-up and a
creation at most, in this order.
-/

namespace WireSchemas

open Remote Resolution

/-! ### The calls of a resolution -/

namespace Resolution

/-- Which of some exchanges are creations. -/
def creations (xs : List Exchange) : List Bool :=
  xs.map fun x => x.call.isCreate

theorem creations_append (xs ys : List Exchange) :
  creations (xs ++ ys) = creations xs ++ creations ys
  := List.map_append

theorem ensures_creations_find (info : SchemaInfo) (c : TypeCache) :
  (find info c).Ensures fun xs _ _ => (creations xs).Sublist [false]
  := by
  rw [find]
  split
  · apply List.nil_sublist
  · intro answer
    apply List.Sublist.refl

theorem ensures_creations_findKnown (info : SchemaInfo) (type : MessageType) (c : TypeCache) :
  (findKnown info type c).Ensures fun xs _ _ => (creations xs).Sublist [false]
  := by
  rw [findKnown]
  split
  · split
    · apply ensures_creations_find
    · apply List.nil_sublist
  · apply ensures_creations_find

theorem ensures_creations_register (o : Options) (info : SchemaInfo) (definition : String)
    (type : MessageType) (c : TypeCache) :
  (register o info definition type c).Ensures fun xs _ _ => (creations xs).Sublist [true]
  := by
  rw [register]
  split
  · apply List.nil_sublist
  · intro answer
    cases answer <;> apply List.Sublist.refl

/-- A schema is looked up before it is created, and neither is done twice. -/
theorem ensures_creations_findOrRegister (o : Options) (info : SchemaInfo) (type : MessageType)
    (c : TypeCache) :
  (findOrRegister o info type c).Ensures fun xs _ _ => (creations xs).Sublist [false, true]
  := by
  have hfound : ∀ xs, (creations xs).Sublist [false] → (creations xs).Sublist [false, true] :=
    fun xs hxs => hxs.trans (List.sublist_append_left [false] [true])
  apply Operation.ensures_andThen (ensures_creations_findKnown info type c)
  · intro xs c' f hxs
    apply hfound xs hxs
  intro xs c' found hxs
  split
  · simpa [Process.Ensures] using hfound xs hxs
  · split
    · simpa [Process.Ensures] using hfound xs hxs
    · apply (ensures_creations_register o info "" type c').imp
      intro ys c'' result hys
      rw [creations_append]
      apply hxs.append hys

end Resolution

/-! ### Serializers -/

namespace Codec

variable {σ : Type}

theorem ensures_creations_serialize (c : Codec) (o : Options) (catalog : Catalog)
    (m : Option Message) (headers : Headers) (cache : TypeCache) :
  (c.serialize o catalog m headers cache).Ensures fun xs _ _ =>
    (creations xs).Sublist [false, true]
  := by
  cases himmediate : c.immediate? (SchemaInfo.ofHeaders headers) m with
  | some body =>
    rw [serialize_of_immediate? himmediate]
    apply List.nil_sublist
  | none =>
    obtain ⟨hformat, m, rfl, hraw⟩ := exists_record_of_immediate?_eq_none himmediate
    rw [serialize_record o catalog hformat hraw]
    apply (ensures_creations_findOrRegister o _ m.type cache).bind_done
    intro xs c' result hxs
    apply hxs

/-- Whatever the client, its state, the token, the cache and the headers are, a serializer refuses
another format than its own whatever it is given.  In its own format no message has an empty body,
raw bytes are the body and an empty body is no message.  None of this makes a call or changes
anything, and no message takes more than a look-up and then a creation. -/
theorem shortcuts_leave_unmoved (c : Codec) (o : Options) (catalog : Catalog) (client : Client σ)
    (t : Token) (s : σ) (cache : TypeCache) (headers : Headers) :
  let info := SchemaInfo.ofHeaders headers
  let out (m : Option Message) := (c.serialize o catalog m headers cache).run client t s
  let unmoved (body : Except Failure Bytes) := Outcome.unmoved ⟨headers, body⟩ cache s t
  (info.format ≠ c.format →
    (∀ m, out m = unmoved (.error (.unsupportedFormat c.format info.format))) ∧
    ∀ data, c.deserialize cache catalog data headers =
      .error (.unsupportedFormat c.format info.format)) ∧
  (info.format = c.format →
    out none = unmoved (.ok []) ∧
    (∀ m bytes, m.rawBytes? = some bytes →
      out (some m) = unmoved (.ok bytes) ∧ Codec.bytes.encode catalog headers m = .ok bytes) ∧
    c.deserialize cache catalog [] headers = .ok none) ∧
  ∀ m, ((out m).calls.map Call.isCreate).Sublist [false, true]
  := by
  intro info out unmoved
  refine ⟨?_, ?_, ?_⟩
  · intro hformat
    constructor
    · intro m
      simp only [out, serialize_of_format_ne o catalog m hformat]
      rfl
    · apply deserialize_of_format_ne hformat
  · intro hformat
    refine ⟨?_, ?_, deserialize_nil hformat⟩
    · simp only [out, serialize_none o catalog hformat]
      rfl
    · intro m bytes hraw
      constructor
      · simp only [out, serialize_raw o catalog hformat hraw]
        rfl
      · simp [Codec.bytes, hraw]
  · intro m
    have hshape := (ensures_creations_serialize c o catalog m headers cache).run client t s
    have hcalls := (Process.calls_run_sublist (c.serialize o catalog m headers cache) client t
      s).map Call.isCreate
    rw [List.map_map] at hcalls
    apply hcalls.trans hshape

/-- An empty buffer is refused for its format before its bytes are taken and before the token is
looked at. -/
example :
    let headers := Registry.headersOf ⟨"", .bytes⟩
    let out := (json.serialize .default .empty (some (.ofBytes [])) headers .empty).run
      (.inMemory fun _ => .epoch) .cancelled .empty
    out.result.body = .error (.unsupportedFormat .json .bytes) := by
  decide +kernel

end Codec

end WireSchemas
