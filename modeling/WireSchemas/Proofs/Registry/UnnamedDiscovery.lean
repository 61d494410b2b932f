import WireSchemas.Proofs.Registry.Bindings
import WireSchemas.Proofs.TypeCache.Commutation

/-!
# Discovery without a name

A schema without a name is looked for under the first subject that the cache has for the type, and
is created under the derived subject if there is none.  So the subject of a type stays as it is
until a request binds an earlier one to the type, or takes the subject away for another type.
-/

namespace WireSchemas

open Remote Resolution Text TypeCache

variable {n : Nat} {σ : Type}

/-! ### Subjects that stay -/

/-- A binding spares the subject of a type when it gives the type none before it and does not take
it for another type. -/
structure TypeCache.Binding.Spares (b : Binding) (type : MessageType) (format : DataFormat)
    (subject : String) : Prop where
  later : b.type = type → b.schema.format = format →
    Utf8.encode subject ≤ Utf8.encode b.schema.name
  kept : b.schema = ⟨subject, format⟩ → b.type = type

/-- Bindings that spare the subject found for a type leave it the one that is found. -/
theorem TypeCache.subject?_bindAll {c : TypeCache} {type : MessageType} {format : DataFormat}
    {subject : String} {bs : List Binding} (hc : c.Inverse)
    (h : c.subject? type format = some subject) (hbs : ∀ b ∈ bs, b.Spares type format subject) :
  (c.bindAll bs).subject? type format = some subject
  := by
  induction bs generalizing c with
  | nil => apply h
  | cons b bs ih =>
    obtain ⟨hb, hbs⟩ := List.forall_mem_cons.1 hbs
    apply ih (hc.bind b.type b.schema) _ hbs
    apply subject?_bind_eq_some hc h hb.kept hb.later

/-! ### Single calls -/

namespace Resolution

variable {clock : Nat → Timestamp} {o : Options} {c : TypeCache} {s : Store}
  {info schema : SchemaInfo} {type : MessageType} {record : RegisteredSchema}

/-- What is made after a schema was missed is the schema of a registration. -/
theorem ensures_registerMissed (o : Options) (info : SchemaInfo) (type : MessageType)
    (c : TypeCache) :
  (registerMissed o info type c).Ensures fun _ _ result =>
    ∀ record, result = .ok record → o.registrationSchema info type = .ok record.info
  := by
  rw [registerMissed]
  split
  · rintro record ⟨⟩
  · rw [register]
    split
    · rintro record ⟨⟩
    · next schema hschema =>
      intro answer
      cases answer with
      | error f => rintro record ⟨⟩
      | ok revision =>
        rintro record ⟨⟩
        apply hschema

/-- Under any token, a discovery without a name comes to the subject that the cache finds for the
type, or to the derived one if it finds none. -/
theorem subject_findOrRegister (token : Token) (hc : Coherent s c) (hs : s.Identified)
    (hname : info.NameMissing)
    (hrecord : ((findOrRegister o info type c).run (.inMemory clock) token s).result =
      .ok record) :
  record.info.format = info.format ∧ type.isMissing = false ∧
    (c.subject? type info.format = some record.subject ∨
      c.subject? type info.format = none ∧ o.schemaInfo type info.format = .ok record.info)
  := by
  cases hknown : knownSchema? c info type with
  | some schema =>
    have hstored := isSome_latest?_known hc hname hknown
    have hinfo := info_findOrRegister_of_isSome token hknown hs hstored hrecord
    simp only [knownSchema?, hname, if_true] at hknown
    obtain ⟨subject, hsubject, rfl⟩ := Option.map_eq_some_iff.1 hknown
    obtain rfl : record.subject = subject := congrArg SchemaInfo.name hinfo
    have hbound := (hc.inverse _ _).2 (subject?_eq_some hsubject)
    have hformat : record.info.format = info.format := by
      rw [hinfo]
      rfl
    exact ⟨hformat, (hc.bound _ type hbound).1, .inl hsubject⟩
  | none =>
    obtain ⟨-, hsubject⟩ := knownSchema?_eq_none_iff.1 hknown
    rw [findOrRegister_of_unknown hknown] at hrecord
    have hschema := (ensures_registerMissed o info type c).run (.inMemory clock) token s record
      hrecord
    have htype := (registrationSchema_cases hschema).1
    refine ⟨(registrationSchema_agrees hschema).format, htype, .inr ⟨hsubject, ?_⟩⟩
    simpa [Options.registrationSchema, htype, hname] using hschema

end Resolution

/-! ### Sequences of requests -/

namespace Registries

/-- An errand discovers the schema of a type in a format without naming it, and comes to a record
with a subject.  The response is made of that record: `Request.run_of_discovery?`. -/
def DiscoversUnnamed (client : Client σ) (settings : Fin n → Options) (r : Registries n σ)
    (e : Errand n) (type : MessageType) (format : DataFormat) (subject : String) : Prop :=
  ∃ d, e.request.discovery? = some d ∧ d.info.NameMissing ∧ d.type = type ∧
    d.info.format = format ∧
    ((findOrRegister (settings e.owner) d.info d.type (r.caches e.owner)).run client e.token
      r.remote).result.map RegisteredSchema.subject = .ok subject

variable {clock : Nat → Timestamp} {settings : Fin n → Options} {r : Registries n Store}
  {e : Errand n} {type : MessageType} {format : DataFormat} {subject : String}

theorem exists_ok_of_map_eq_ok {ε α β : Type} {f : α → β} {result : Except ε α} {b : β}
    (h : result.map f = .ok b) :
  ∃ a, result = .ok a ∧ f a = b
  := by
  cases result with
  | error e => cases h
  | ok a => exact ⟨a, rfl, Except.ok.inj h⟩

/-- A discovery without a name binds its subject, which is the one that the cache found for the
type, or the derived one. -/
theorem DiscoversUnnamed.cases (hr : r.Consistent)
    (h : r.DiscoversUnnamed (.inMemory clock) settings e type format subject) :
  r.binding? (.inMemory clock) settings e = some ⟨type, ⟨subject, format⟩⟩ ∧
    ((r.caches e.owner).subject? type format = some subject ∨
      (r.caches e.owner).subject? type format = none ∧
        (settings e.owner).schemaInfo type format = .ok ⟨subject, format⟩)
  := by
  obtain ⟨d, hd, hname, rfl, rfl, hresult⟩ := h
  obtain ⟨record, hrecord, rfl⟩ := exists_ok_of_map_eq_ok hresult
  obtain ⟨hformat, htype, hsubject⟩ :=
    subject_findOrRegister e.token (hr.coherent e.owner) hr.identified hname hrecord
  have hinfo : record.info = ⟨record.subject, d.info.format⟩ := by
    rw [← hformat]
    rfl
  rw [hinfo] at hsubject
  refine ⟨?_, hsubject⟩
  simp [binding?, Request.binder?_of_discovery? hd, Discovery.binder, hrecord, Binder.binding?,
    htype, hinfo]

/-- After a discovery without a name the cache finds its subject for the type. -/
theorem DiscoversUnnamed.subject?_after (hr : r.Consistent)
    (h : r.DiscoversUnnamed (.inMemory clock) settings e type format subject) :
  ((r.after (.inMemory clock) settings e).caches e.owner).subject? type format = some subject
  := by
  obtain ⟨hbinding, hsubject⟩ := h.cases hr
  rw [caches_after_self, cache_outcome, hbinding]
  change ((r.caches e.owner).bind type ⟨subject, format⟩).subject? type format = some subject
  rcases hsubject with hsubject | ⟨hsubject, -⟩
  · have hbound := subject?_eq_some hsubject
    have htype := ((hr.coherent e.owner).inverse _ _).2 hbound
    rw [bind_eq_self htype hbound, hsubject]
  · apply subject?_bind_of_eq_none hsubject

/-- After any requests to registries over one store, a discovery without a name that succeeds has
the least subject whose last binding by its registry is to the type in the format, or the derived
subject if there is none.  So when one succeeded before, a later one has the same subject as long as
every binding of the registry in between spares it. -/
theorem unnamed_discovery_least (clock : Nat → Timestamp) (settings : Fin n → Options)
    (es : List (Errand n)) (e : Errand n) (type : MessageType) (format : DataFormat)
    (subject : String) :
  let r := (start .empty).run (.inMemory clock) settings es
  let bs := (start .empty).bindings (.inMemory clock) settings e.owner es
  r.DiscoversUnnamed (.inMemory clock) settings e type format subject →
    (lastType? bs ⟨subject, format⟩ = some type ∧
        (∀ other, lastType? bs ⟨other, format⟩ = some type →
          Utf8.encode subject ≤ Utf8.encode other) ∨
      (∀ other, lastType? bs ⟨other, format⟩ ≠ some type) ∧
        (settings e.owner).schemaInfo type format = .ok ⟨subject, format⟩) ∧
    ∀ before first between former, es = before ++ first :: between → first.owner = e.owner →
      let r₁ := (start .empty).run (.inMemory clock) settings before
      let r₂ := (start .empty).run (.inMemory clock) settings (before ++ [first])
      r₁.DiscoversUnnamed (.inMemory clock) settings first type format former →
        (∀ b ∈ r₂.bindings (.inMemory clock) settings e.owner between,
          b.Spares type format former) →
        subject = former
  := by
  intro r bs h
  have hr : r.Consistent := consistent_start.run es
  obtain ⟨-, hsubject⟩ := h.cases hr
  constructor
  · have hcache : r.caches e.owner = .ofBindings bs := caches_run_start
    rwa [hcache, subject?_ofBindings_eq_some_iff, subject?_ofBindings_eq_none_iff] at hsubject
  · rintro before first between former rfl howner r₁ r₂ hfirst hspares
    have hr₁ : r₁.Consistent := consistent_start.run before
    have hr₂ : r₂ = r₁.after (.inMemory clock) settings first := run_append
    have hrun : r = r₂.run (.inMemory clock) settings between := by
      rw [hr₂]
      exact run_append
    have hafter : (r₂.caches e.owner).subject? type format = some former := by
      rw [hr₂, ← howner]
      apply hfirst.subject?_after hr₁
    have hinverse : (r₂.caches e.owner).Inverse :=
      ((consistent_start.run (before ++ [first])).coherent e.owner).inverse
    have hkept : (r.caches e.owner).subject? type format = some former := by
      rw [hrun, caches_run]
      apply subject?_bindAll hinverse hafter hspares
    rw [hkept] at hsubject
    rcases hsubject with hsame | ⟨hnone, -⟩
    · exact (Option.some.inj hsame).symm
    · cases hnone

/-- A registry discovers a type without a name and then has it under a later subject as well, while
another registry takes the subject for another type. -/
def laterSubjects : List (Errand 2) :=
  let first : Fin 2 := ⟨0, Nat.zero_lt_two⟩
  let second : Fin 2 := ⟨1, Nat.one_lt_two⟩
  [⟨⟨first, .findOrRegister ⟨"", .json⟩ ⟨"Identity.Schema", "UserRegistered"⟩⟩, .live⟩,
    ⟨⟨first, .register ⟨"users", .json⟩ "" ⟨"Identity.Schema", "UserRegistered"⟩⟩, .live⟩,
    ⟨⟨second, .findOrRegister ⟨"Identity.Schema.UserRegistered", .json⟩ ⟨"Sales", "Placed"⟩⟩,
      .live⟩]

/-- A serializer that is given no name comes to the subject of the first discovery, and to no
other. -/
theorem laterSubjects_spare :
  let client := Client.inMemory fun _ => .epoch
  let r := (start .empty).run client (fun _ => .default) laterSubjects
  let type : MessageType := ⟨"Identity.Schema", "UserRegistered"⟩
  let e : Errand 2 := ⟨⟨0, .serializeBy .json .empty
    (some (.record Sample.userRegistered ("ada", "ada@example.org", ())))
    (.withSchemaInfo .empty ⟨"", .json⟩)⟩, .live⟩
  r.DiscoversUnnamed client (fun _ => .default) e type .json "Identity.Schema.UserRegistered" ∧
    ∀ subject, r.DiscoversUnnamed client (fun _ => .default) e type .json subject →
      subject = "Identity.Schema.UserRegistered"
  := by
  intro client r type e
  have hinfo : SchemaInfo.ofHeaders (.withSchemaInfo .empty ⟨"", .json⟩) = ⟨"", .json⟩ := by
    decide +kernel
  constructor
  · refine ⟨_, if_pos ⟨congrArg SchemaInfo.format hinfo, rfl⟩, ?_⟩
    rw [hinfo]
    exact ⟨by decide, rfl, rfl, by decide +kernel⟩
  · intro subject h
    obtain ⟨-, hstays⟩ := unnamed_discovery_least (fun _ => .epoch) (fun _ => .default)
      laterSubjects e type .json subject h
    refine hstays [] _ _ _ rfl rfl ⟨_, rfl, by decide, rfl, rfl, by decide +kernel⟩ ?_
    intro b hb
    obtain rfl : b = ⟨type, ⟨"users", .json⟩⟩ := List.mem_singleton.1 hb
    exact ⟨fun _ _ => by decide, fun _ => rfl⟩

/-- A discovery with a name makes an earlier subject that of the type. -/
theorem not_unnamed_discovery_stable :
  ¬ ∀ (clock : Nat → Timestamp) (settings : Fin 1 → Options) (before between : List (Errand 1))
      (first later : Errand 1) (type : MessageType) (format : DataFormat)
      (subject subject' : String),
    let r₁ := (start .empty).run (.inMemory clock) settings before
    let r₂ := (start .empty).run (.inMemory clock) settings (before ++ first :: between)
    r₁.DiscoversUnnamed (.inMemory clock) settings first type format subject →
      r₂.DiscoversUnnamed (.inMemory clock) settings later type format subject' →
        subject' = subject
  := by
  intro h
  let type : MessageType := ⟨"Identity.Schema", "UserRegistered"⟩
  let unnamed : Errand 1 := ⟨⟨0, .findOrRegister ⟨"", .json⟩ type⟩, .live⟩
  let named : Errand 1 := ⟨⟨0, .findOrRegister ⟨"Accounts", .json⟩ type⟩, .live⟩
  have hsame := h (fun _ => .epoch) (fun _ => .default) [] [named] unnamed unnamed type .json
    "Identity.Schema.UserRegistered" "Accounts"
    ⟨_, rfl, by decide, rfl, rfl, by decide +kernel⟩
    ⟨_, rfl, by decide, rfl, rfl, by decide +kernel⟩
  revert hsame
  decide

end Registries

end WireSchemas
