import Mathlib.Data.Finset.Card
import Mathlib.Data.Finset.Dedup
import WireSchemas.Proofs.Naming.FullName
import WireSchemas.Proofs.Registry.Bindings

/-!
# Subjects from full names

A registry that derives its subjects from the full names of types, and has a store of its own,
creates one schema for each type and format that it discovers without a name.  No two types with
plain names have one full name, so no discovery takes the schema of another type.
-/

namespace WireSchemas

open Remote Resolution TypeCache

variable {n : Nat}

/-- An errand discovers a schema without naming it, for a type with a plain name, and is never
cancelled. -/
def Errand.Unnamed (e : Errand n) : Prop :=
  e.token = .live ∧ ∃ d, e.request.discovery? = some d ∧ d.info.NameMissing ∧ d.type.Plain

/-- The types and formats that errands discover schemas for. -/
def Errand.uses (es : List (Errand n)) : List (MessageType × DataFormat) :=
  es.filterMap fun e => e.request.discovery?.map fun d => (d.type, d.info.format)

namespace Registries

/-- A registry has the schemas of some types and formats, and nothing else, under the full names of
the types, and each of them was created once. -/
structure Named (r : Registries 1 Store) (used : Finset (MessageType × DataFormat)) : Prop where
  consistent : r.Consistent
  plain : ∀ p ∈ used, p.1.Plain
  types : ∀ owner schema type, (r.caches owner).type? schema = some type ↔
    (type, schema.format) ∈ used ∧ schema.name = type.fullName
  stored : ∀ schema, (r.remote.latest? schema).isSome →
    ∃ type, (type, schema.format) ∈ used ∧ schema.name = type.fullName
  once : r.remote.CreatedOnce
  creates : r.remote.creates = used.card

theorem named_start :
  (start .empty).Named ∅
  := by
  refine ⟨consistent_start, by simp, ?_, by simp [start], Store.createdOnce_empty, rfl⟩
  intro owner schema type
  simp [start, type?, TypeCache.empty]

namespace Named

variable {r : Registries 1 Store} {used : Finset (MessageType × DataFormat)} {info : SchemaInfo}
  {type : MessageType} {format : DataFormat}

/-! ### What is known for a type -/

theorem subject?_of_mem (owner : Fin 1) (h : r.Named used) (hmem : (type, format) ∈ used) :
  (r.caches owner).subject? type format = some type.fullName
  := by
  have hinverse := (h.consistent.coherent owner).inverse
  rw [subject?_eq_some_iff]
  constructor
  · rw [← hinverse, h.types]
    exact ⟨hmem, rfl⟩
  · intro other hother
    rw [← hinverse, h.types] at hother
    obtain rfl : other = type.fullName := hother.2
    apply List.le_refl

theorem subject?_of_notMem (owner : Fin 1) (h : r.Named used) (hnew : (type, format) ∉ used) :
  (r.caches owner).subject? type format = none
  := by
  have hinverse := (h.consistent.coherent owner).inverse
  rw [subject?_eq_none_iff]
  rintro schema hbound rfl
  rw [← hinverse, h.types] at hbound
  apply hnew hbound.1

/-- The store has no schema under the full name of a type that was not discovered. -/
theorem latest?_of_notMem (h : r.Named used) (htype : type.Plain)
    (hnew : (type, format) ∉ used) :
  r.remote.latest? ⟨type.fullName, format⟩ = none
  := by
  rw [← Option.not_isSome_iff_eq_none]
  intro hstored
  obtain ⟨type', hmem, hname⟩ := h.stored _ hstored
  obtain rfl := (MessageType.fullName_inj htype (h.plain _ hmem)).1 hname
  apply hnew hmem

/-! ### Single calls -/

/-- A discovery for a type that was discovered before finds its schema and changes nothing. -/
theorem run_of_mem (clock : Nat → Timestamp) (owner : Fin 1) (h : r.Named used)
    (hname : info.NameMissing) (hmem : (type, info.format) ∈ used) :
  let schema : SchemaInfo := ⟨type.fullName, info.format⟩
  ∃ stored : StoredSchema,
    (findOrRegister .default info type (r.caches owner)).run (.inMemory clock) .live r.remote =
      ⟨.ok (stored.record schema), r.caches owner, r.remote, .live, [.lookup schema]⟩
  := by
  intro schema
  have hc := h.consistent.coherent owner
  have hvisible := (h.plain _ hmem).visible
  have hknown : knownSchema? (r.caches owner) info type = some schema := by
    simp only [knownSchema?, hname, if_true, h.subject?_of_mem owner hmem]
    rfl
  obtain ⟨stored, hlatest⟩ := Option.isSome_iff_exists.1 (isSome_latest?_known hc hname hknown)
  use stored
  rw [run_findOrRegister_of_stored hknown (Naming.not_blank_fullName hvisible) hlatest
    (h.consistent.identified schema stored hlatest), bind_known hc.inverse hname hknown, ite_self]

/-- A discovery for a new type creates its schema. -/
theorem run_of_notMem (clock : Nat → Timestamp) (owner : Fin 1) (h : r.Named used)
    (hname : info.NameMissing) (htype : type.Plain) (hnew : (type, info.format) ∉ used) :
  let request : CreateRequest := ⟨⟨type.fullName, info.format⟩, []⟩
  let now := clock r.remote.creates
  (findOrRegister .default info type (r.caches owner)).run (.inMemory clock) .live r.remote =
    ⟨.ok (newRecord request.schema "" (r.remote.nextRevision now request)),
      (r.caches owner).bind type request.schema, r.remote.create now request, .live,
      [.create request]⟩
  := by
  intro request now
  have hmissing := MessageType.isMissing_of_not_blank htype.visible
  have hschema : Options.default.registrationSchema info type = .ok request.schema := by
    simp [Options.registrationSchema, Options.schemaInfo, Options.default, hmissing, hname,
      Naming.SubjectRule.subject, Except.map, request]
  have hunknown := knownSchema?_eq_none_iff.2 ⟨hname, h.subject?_of_notMem owner hnew⟩
  rw [findOrRegister_of_unknown hunknown, registerMissed_of_autoRegister rfl,
    run_register hschema]
  rfl

theorem plain_insert (h : r.Named used) (htype : type.Plain) :
  ∀ p ∈ insert (type, format) used, p.1.Plain
  := by
  intro p hp
  rcases Finset.mem_insert.1 hp with rfl | hmem
  · apply htype
  · apply h.plain p hmem

/-- After a binding to the full name of a type, schemas still have the types of their names. -/
theorem types_bind (h : r.Named used) (htype : type.Plain) (owner : Fin 1) (schema : SchemaInfo)
    (type' : MessageType) :
  ((r.caches owner).bind type ⟨type.fullName, format⟩).type? schema = some type' ↔
    (type', schema.format) ∈ insert (type, format) used ∧ schema.name = type'.fullName
  := by
  rw [type?_bind]
  split
  · next hschema =>
    obtain rfl := hschema
    constructor
    · rintro ⟨⟩
      exact ⟨Finset.mem_insert_self _ _, rfl⟩
    · rintro ⟨hmem, hname⟩
      rw [(MessageType.fullName_inj htype (h.plain_insert htype _ hmem)).1 hname]
  · next hne =>
    rw [h.types, Finset.mem_insert]
    constructor
    · rintro ⟨hmem, hname⟩
      exact ⟨.inr hmem, hname⟩
    · rintro ⟨hsame | hmem, hname⟩
      · cases hsame
        cases hne (congrArg₂ SchemaInfo.mk hname rfl).symm
      · exact ⟨hmem, hname⟩

/-- The registry has another schema once it is created and bound. -/
theorem create (h : r.Named used) (htype : type.Plain) (hnew : (type, format) ∉ used)
    {r' : Registries 1 Store} (hr' : r'.Consistent) {now : Timestamp}
    (hcaches : ∀ owner, r'.caches owner = (r.caches owner).bind type ⟨type.fullName, format⟩)
    (hremote : r'.remote = r.remote.create now ⟨⟨type.fullName, format⟩, []⟩) :
  r'.Named (insert (type, format) used)
  := by
  have hlatest := h.latest?_of_notMem htype hnew
  refine ⟨hr', h.plain_insert htype, ?_, ?_, ?_, ?_⟩
  · intro owner schema type'
    rw [hcaches]
    apply h.types_bind htype
  · intro schema hstored
    rw [hremote, Store.latest?_create] at hstored
    split at hstored
    · next hschema =>
      obtain rfl := hschema
      exact ⟨type, Finset.mem_insert_self _ _, rfl⟩
    · obtain ⟨type', hmem, hname⟩ := h.stored schema hstored
      exact ⟨type', Finset.mem_insert_of_mem hmem, hname⟩
  · rw [hremote]
    exact h.once.gains (.inr ⟨_, now, hlatest, rfl⟩)
  · rw [hremote, Finset.card_insert_of_notMem hnew, ← h.creates]
    rfl

/-- A discovery without a name comes to the schema of its type, and creates it if it is a new
one. -/
theorem after (clock : Nat → Timestamp) (h : r.Named used) {e : Errand 1}
    (htoken : e.token = .live) {d : Discovery} (hd : e.request.discovery? = some d)
    (hname : d.info.NameMissing) (htype : d.type.Plain) :
  let settings : Fin 1 → Options := fun _ => .default
  let out := r.outcome (.inMemory clock) settings e
  let p := (d.type, d.info.format)
  (∃ record, record.info = ⟨d.type.fullName, d.info.format⟩ ∧
    out.result = d.respond (.ok record)) ∧
  out.calls.countP Call.isCreate + used.card = (insert p used).card ∧
  (r.after (.inMemory clock) settings e).Named (insert p used)
  := by
  intro settings out p
  have hout : out = ((findOrRegister .default d.info d.type (r.caches e.owner)).run
      (.inMemory clock) .live r.remote).map d.respond := by
    simp only [out, outcome, htoken]
    apply Request.run_of_discovery? hd
  by_cases hmem : p ∈ used
  · obtain ⟨stored, hrun⟩ := h.run_of_mem clock e.owner hname hmem
    rw [hrun] at hout
    have hafter : r.after (.inMemory clock) settings e = r :=
      after_eq_self (congrArg Outcome.cache hout) (congrArg Outcome.state hout)
    rw [Finset.insert_eq_of_mem hmem, hafter]
    refine ⟨⟨_, rfl, congrArg Outcome.result hout⟩, ?_, h⟩
    simp [hout, Outcome.map, Call.isCreate]
  · have hrun := h.run_of_notMem clock e.owner hname htype hmem
    rw [hrun] at hout
    refine ⟨⟨_, rfl, congrArg Outcome.result hout⟩, ?_, ?_⟩
    · rw [Finset.card_insert_of_notMem hmem, Nat.add_comm]
      simp [hout, Outcome.map, Call.isCreate]
    · apply h.create htype hmem (h.consistent.after e)
      · intro owner
        obtain rfl : e.owner = owner := Subsingleton.elim _ _
        rw [caches_after_self]
        exact congrArg Outcome.cache hout
      · exact congrArg Outcome.state hout

end Named

/-! ### Sequences of calls -/

/-- What discoveries without a name come to, one after the other. -/
theorem named_run (clock : Nat → Timestamp) {es : List (Errand 1)} (hes : ∀ e ∈ es, e.Unnamed) :
  let settings : Fin 1 → Options := fun _ => .default
  let trace := (start .empty).trace (.inMemory clock) settings es
  ((start .empty).run (.inMemory clock) settings es).Named (Errand.uses es).toFinset ∧
  (trace.flatMap fun x => x.2.calls).countP Call.isCreate = (Errand.uses es).toFinset.card ∧
  ∀ x ∈ trace, ∀ d, x.1.request.discovery? = some d →
    ∃ record, record.info = ⟨d.type.fullName, d.info.format⟩ ∧ x.2.result = d.respond (.ok record)
  := by
  intro settings trace
  induction es using List.reverseRecOn with
  | nil => exact ⟨named_start, rfl, by simp [trace, Registries.trace]⟩
  | append_singleton es e ih =>
    obtain ⟨hes, he⟩ := List.forall_mem_append.1 hes
    obtain ⟨hr, hcount, htrace⟩ := ih hes
    obtain ⟨htoken, d, hd, hname, htype⟩ := he e (List.mem_singleton_self e)
    obtain ⟨hresult, hcalls, hafter⟩ := hr.after clock htoken hd hname htype
    have huses : (Errand.uses (es ++ [e])).toFinset =
        insert (d.type, d.info.format) (Errand.uses es).toFinset := by
      simp [Errand.uses, hd, Finset.union_comm]
    simp only [trace, huses, run_append, trace_append, List.flatMap_append, List.countP_append]
    refine ⟨hafter, ?_, ?_⟩
    · rw [hcount, Nat.add_comm]
      simpa only [Registries.trace, List.flatMap_cons, List.flatMap_nil, List.append_nil] using
        hcalls
    · intro x hx d' hd'
      rcases List.mem_append.1 hx with hx | hx
      · apply htrace x hx d' hd'
      · obtain rfl := List.mem_singleton.1 hx
        obtain rfl : d = d' := Option.some.inj (hd.symm.trans hd')
        apply hresult

/-- One creation for each type and format.  A registry with the default settings and a store of its
own discovers schemas without names, for types with plain names, in any order and as often as may
be.  Every discovery comes to the schema of its type under its full name, as many schemas are
created as there are types and formats, each has its first version, and each is bound to its
type. -/
theorem full_names_created_once (clock : Nat → Timestamp) (es : List (Errand 1))
    (hes : ∀ e ∈ es, e.Unnamed) :
  let settings : Fin 1 → Options := fun _ => .default
  let r := (start .empty).run (.inMemory clock) settings es
  let trace := (start .empty).trace (.inMemory clock) settings es
  (∀ x ∈ trace, ∀ d, x.1.request.discovery? = some d →
    ∃ record, record.info = ⟨d.type.fullName, d.info.format⟩ ∧
      x.2.result = d.respond (.ok record)) ∧
  (trace.flatMap fun x => x.2.calls).countP Call.isCreate = (Errand.uses es).toFinset.card ∧
  r.remote.creates = (Errand.uses es).toFinset.card ∧
  (∀ schema stored, r.remote.latest? schema = some stored → stored.revision.version = 1) ∧
  ∀ p ∈ Errand.uses es, (r.caches 0).typeOf ⟨p.1.fullName, p.2⟩ = p.1
  := by
  intro settings r trace
  obtain ⟨hr, hcount, htrace⟩ := named_run clock hes
  refine ⟨htrace, hcount, hr.creates, ?_, ?_⟩
  · intro schema stored hstored
    apply (hr.once.first schema stored hstored).1
  · intro p hp
    have htype := (hr.types 0 ⟨p.1.fullName, p.2⟩ p.1).2 ⟨List.mem_toFinset.2 hp, rfl⟩
    exact congrArg (Option.getD · .missing) htype

/-- Types whose full names share a part with another one, among them that of a message. -/
def nestedNames : List (Errand 1) :=
  let only : Fin 1 := ⟨0, Nat.zero_lt_one⟩
  [⟨⟨only, .findOrRegister ⟨"", .json⟩ ⟨"Identity", "Schema"⟩⟩, .live⟩,
    ⟨⟨only, .serializeBy .json .empty
      (some (.record Sample.userRegistered ("ada", "ada@example.org", ())))
      (.withSchemaInfo .empty ⟨"", .json⟩)⟩, .live⟩,
    ⟨⟨only, .findOrRegister ⟨" ", .protobuf⟩ ⟨"Identity", "Schema"⟩⟩, .live⟩,
    ⟨⟨only, .findOrRegister ⟨"", .json⟩ ⟨"", "Schema"⟩⟩, .live⟩,
    ⟨⟨only, .findOrRegister ⟨"", .json⟩ ⟨"Identity", "Schema"⟩⟩, .live⟩]

theorem nestedNames_created_once :
  let r := (start .empty).run (.inMemory fun _ => .epoch) (fun _ => .default) nestedNames
  (∀ e ∈ nestedNames, e.Unnamed) ∧ r.remote.creates = 4 ∧
    (r.caches 0).typeOf ⟨"Identity.Schema.UserRegistered", .json⟩ =
      ⟨"Identity.Schema", "UserRegistered"⟩
  := by
  intro r
  have hinfo : SchemaInfo.ofHeaders (.withSchemaInfo .empty ⟨"", .json⟩) = ⟨"", .json⟩ := by
    decide +kernel
  have hes : ∀ e ∈ nestedNames, e.Unnamed := by
    intro e he
    simp only [nestedNames, List.mem_cons, List.not_mem_nil, or_false] at he
    rcases he with rfl | rfl | rfl | rfl | rfl
    · exact ⟨rfl, _, rfl, by decide, by decide, by decide⟩
    · refine ⟨rfl, _, if_pos ⟨congrArg SchemaInfo.format hinfo, rfl⟩, ?_⟩
      rw [hinfo]
      exact ⟨by decide, by decide, by decide⟩
    · exact ⟨rfl, _, rfl, by decide, by decide, by decide⟩
    · exact ⟨rfl, _, rfl, by decide, by decide, by decide⟩
    · exact ⟨rfl, _, rfl, by decide, by decide, by decide⟩
  obtain ⟨-, -, hcreates, -, htypes⟩ := full_names_created_once (fun _ => .epoch) nestedNames hes
  refine ⟨hes, hcreates.trans (by decide +kernel), ?_⟩
  apply htypes ⟨⟨"Identity.Schema", "UserRegistered"⟩, .json⟩
  decide +kernel

end Registries

end WireSchemas
