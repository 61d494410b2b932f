import WireSchemas.Proofs.Remote.Heard
import WireSchemas.Proofs.Resolution.Discovery
import WireSchemas.Proofs.Resolution.Outcome

/-!
# Absent schemas

A schema that was not found is recorded by a record with every field empty.  A look-up is made of
visible names only, so whatever a remote registry says of a schema, its record is another one:
`find` gives the empty record when the remote registry has no schema, and only then.  What a
discovery does after its look-up is therefore a matter of the answer, `AfterLookUp`.  It goes on to
create the schema, or reports that it is not registered, when there is none and its registration is
not refused.
-/

namespace WireSchemas

open Remote

variable {σ β : Type}

/-- A call that succeeds was answered by the client. -/
theorem Remote.Token.success_call {t : Token} {carryOut : σ → Except Failure β × σ} {s : σ} {b : β}
    (h : (t.call carryOut s).answer = .ok b) :
  (carryOut s).1 = .ok b
  := by
  rcases t with _ | _ | ⟨_ | n, _ | _ | _⟩ <;> simp_all [Token.call]

namespace Resolution

/-- A record with a visible name is not that of a schema not found, whatever the remote registry
has stored. -/
theorem isNone_record_of_named (stored : StoredSchema) {schema : SchemaInfo}
    (hname : ¬ schema.NameMissing) :
  (stored.record schema).isNone = false
  := by
  have hsubject : schema.name ≠ "" := by
    intro hempty
    apply hname
    rw [SchemaInfo.NameMissing, hempty]
    apply Text.blank_empty
  simp [RegisteredSchema.isNone, RegisteredSchema.none, StoredSchema.record, hsubject]

/-- The record of a look-up is that of a schema not found when the answer was that there is
none. -/
theorem isNone_foundRecord {info : SchemaInfo} (hname : ¬ info.NameMissing)
    (found : Option StoredSchema) :
  (foundRecord info found).isNone = true ↔ found = none
  := by
  cases found with
  | none => simp [foundRecord, RegisteredSchema.isNone]
  | some stored => simp [foundRecord, isNone_record_of_named stored hname]

/-- A look-up that succeeds gives the record of what the client answered. -/
theorem foundRecord_of_run_find {client : Client σ} {t : Token} {s : σ} {c : TypeCache}
    {info : SchemaInfo} {record : RegisteredSchema} (hname : ¬ info.NameMissing)
    (h : ((find info c).run client t s).result = .ok record) :
  ∃ found, (client.lookup info s).1 = .ok found ∧ record = foundRecord info found
  := by
  simp only [find, hname, if_false, Process.run, Outcome.result_after] at h
  cases hanswer : (t.call (client.lookup info) s).answer with
  | error f => simp [hanswer, Except.map] at h
  | ok found =>
    use found, Token.success_call hanswer
    rw [hanswer] at h
    cases found <;> exact (Except.ok.inj h).symm

/-! ### After the look-up of a discovery -/

/-- The cache after the answer to a creation. -/
def createdCache (c : TypeCache) (type : MessageType) (schema : SchemaInfo) :
    Except Failure Revision → TypeCache
  | .ok _ => c.bind type schema
  | .error _ => c

/-- How a discovery goes on from the answer to its look-up of a schema: the exchanges to come, and
the cache and the result that it ends with. -/
inductive AfterLookUp (o : Options) (info : SchemaInfo) (type : MessageType) (schema : SchemaInfo)
    (c : TypeCache) : Except Failure (Option StoredSchema) → List Exchange → TypeCache →
      Except Failure RegisteredSchema → Prop
  /-- The failure of the look-up is passed on. -/
  | failed (f : Failure) : AfterLookUp o info type schema c (.error f) [] c (.error f)
  /-- The schema is bound to the type. -/
  | found (stored : StoredSchema) :
    AfterLookUp o info type schema c (.ok (some stored)) [] (boundCache c type schema)
      (.ok (stored.record schema))
  /-- Schemas are not created on first use. -/
  | forbidden (hauto : o.autoRegister = false) :
    AfterLookUp o info type schema c (.ok none) [] c (.error (.notRegistered type))
  /-- The type can be registered under no schema. -/
  | refused (hauto : o.autoRegister = true) {f : Failure}
    (hrefused : o.registrationSchema info type = .error f) :
    AfterLookUp o info type schema c (.ok none) [] c (.error f)
  /-- A creation is attempted. -/
  | attempted (hauto : o.autoRegister = true) {target : SchemaInfo}
    (htarget : o.registrationSchema info type = .ok target) (answer : Except Failure Revision) :
    AfterLookUp o info type schema c (.ok none) [.created ⟨target, []⟩ answer]
      (createdCache c type target answer) (answer.map (newRecord target ""))

variable {o : Options} {info schema : SchemaInfo} {type : MessageType} {c : TypeCache}

/-- What is done about a schema that was not found is what comes after that answer. -/
theorem afterLookUp_registerMissed (o : Options) (info : SchemaInfo) (type : MessageType)
    (schema : SchemaInfo) (c : TypeCache) :
  (registerMissed o info type c).Ensures (AfterLookUp o info type schema c (.ok none))
  := by
  cases hauto : o.autoRegister with
  | false =>
    rw [registerMissed_of_not_autoRegister hauto]
    apply AfterLookUp.forbidden hauto
  | true =>
    rw [registerMissed_of_autoRegister hauto, register]
    cases htarget : o.registrationSchema info type with
    | error f => apply AfterLookUp.refused hauto htarget
    | ok target =>
      intro answer
      cases answer with
      | error f => apply AfterLookUp.attempted hauto htarget (.error f)
      | ok revision => apply AfterLookUp.attempted hauto htarget (.ok revision)

/-- A discovery that knows a named schema looks it up, and goes on from the answer. -/
theorem ensures_findOrRegister_of_known (o : Options)
    (hknown : knownSchema? c info type = some schema) (hname : ¬ schema.NameMissing) :
  (findOrRegister o info type c).Ensures fun xs c' result =>
    ∃ answer rest, xs = .found schema answer :: rest ∧
      AfterLookUp o info type schema c answer rest c' result
  := by
  simp only [findOrRegister, Operation.andThen, findKnown_of_some hknown, find, hname, if_false,
    Process.bind]
  intro answer
  cases answer with
  | error f => exact ⟨.error f, [], rfl, .failed f⟩
  | ok found =>
    cases found with
    | none =>
      apply (afterLookUp_registerMissed o info type schema c).imp
      intro xs c' result h
      exact ⟨.ok none, xs, rfl, h⟩
    | some stored =>
      simp only [Except.map, isNone_record_of_named stored hname, Bool.not_false, if_true]
      exact ⟨.ok (some stored), [], rfl, .found stored⟩

/-- A discovery goes on from the answer to its look-up, if it makes one. -/
theorem ensures_afterLookUp (o : Options) (info : SchemaInfo) (type : MessageType)
    (c : TypeCache) :
  (findOrRegister o info type c).Ensures fun xs c' result =>
    ∀ schema answer rest, xs = .found schema answer :: rest →
      AfterLookUp o info type schema c answer rest c' result
  := by
  cases hknown : knownSchema? c info type with
  | none =>
    rw [findOrRegister_of_unknown hknown]
    apply (afterLookUp_registerMissed o info type info c).imp
    rintro xs c' result h schema answer rest rfl
    cases h
  | some known =>
    by_cases hname : known.NameMissing
    · rw [findOrRegister_of_nameMissing hknown hname]
      rintro schema answer rest ⟨⟩
    · apply (ensures_findOrRegister_of_known o hknown hname).imp
      rintro xs c' result ⟨answer', rest', rfl, h⟩ schema answer rest heq
      cases heq
      apply h

/-- A discovery goes on to create a schema, or reports that the type is not registered, when the
answer was that there is no schema and its registration is not refused.  The look-up itself may
also be answered that the type is not registered, which is passed on. -/
theorem AfterLookUp.creates_or_notRegistered_iff {answer : Except Failure (Option StoredSchema)}
    {rest : List Exchange} {c' : TypeCache} {result : Except Failure RegisteredSchema}
    (h : AfterLookUp o info type schema c answer rest c' result)
    (hanswer : answer ≠ .error (.notRegistered type)) :
  (¬ LookupsOnly rest ∨ result = .error (.notRegistered type)) ↔
    answer = .ok none ∧
      (o.autoRegister = true → ∃ target, o.registrationSchema info type = .ok target)
  := by
  cases h with
  | failed f =>
    have hf : f ≠ .notRegistered type := fun heq => hanswer (heq ▸ rfl)
    simp [lookupsOnly_nil, hf]
  | found stored => simp [lookupsOnly_nil]
  | forbidden hauto => simp [hauto]
  | refused hauto hrefused =>
    obtain ⟨cause, rfl⟩ := exists_invalidInput_of_registrationSchema hrefused
    simp [lookupsOnly_nil, hauto, hrefused]
  | attempted hauto htarget answer => simp [LookupsOnly, Exchange.isCreate, hauto, htarget]

/-- A registration that is refused after a look-up is refused without a call. -/
theorem AfterLookUp.of_refused {rest : List Exchange} {c' : TypeCache}
    {result : Except Failure RegisteredSchema} {f : Failure}
    (h : AfterLookUp o info type schema c (.ok none) rest c' result) (hauto : o.autoRegister = true)
    (hrefused : o.registrationSchema info type = .error f) :
  rest = [] ∧ c' = c ∧ result = .error f
  := by
  cases h with
  | forbidden hoff =>
    rw [hauto] at hoff
    cases hoff
  | refused _ hrefused' =>
    cases hrefused.symm.trans hrefused'
    exact ⟨rfl, rfl, rfl⟩
  | attempted _ htarget answer => cases hrefused.symm.trans htarget

/-! ### Absence -/

/-- Whatever a client answers and whenever the token fires, the record of a look-up that succeeds
is that of a schema not found exactly when the client has no schema.  After a look-up that was not
itself answered that the type is not registered, a discovery attempts to create a schema or reports
that the type is not registered exactly when there is no schema and its registration is not
refused; a registration that is refused is an invalid argument, and no schema is created. -/
theorem absent_iff_no_schema (client : Client σ) (t : Token) (s : σ) (c : TypeCache) :
  (∀ info record, ¬ info.NameMissing → ((find info c).run client t s).result = .ok record →
    (record.isNone = true ↔ (client.lookup info s).1 = .ok none)) ∧
  ∀ o info type schema answer rest,
    let call := findOrRegister o info type c
    let out := call.run client t s
    call.heard client t s = .found schema answer :: rest →
      (answer ≠ .error (.notRegistered type) →
        ((¬ LookupsOnly rest ∨ out.result = .error (.notRegistered type)) ↔
          answer = .ok none ∧
            (o.autoRegister = true → ∃ target, o.registrationSchema info type = .ok target))) ∧
      (∀ f, answer = .ok none → o.autoRegister = true →
        o.registrationSchema info type = .error f →
          rest = [] ∧ out.cache = c ∧ out.result = .error f ∧ ∃ cause, f = .invalidInput cause)
  := by
  constructor
  · intro info record hname hrecord
    obtain ⟨found, hanswer, rfl⟩ := foundRecord_of_run_find hname hrecord
    rw [isNone_foundRecord hname, hanswer]
    simp
  · intro o info type schema answer rest call out hheard
    have hafter : AfterLookUp o info type schema c answer rest out.cache out.result :=
      (ensures_afterLookUp o info type c).run client t s schema answer rest hheard
    refine ⟨hafter.creates_or_notRegistered_iff, ?_⟩
    rintro f rfl hauto hrefused
    obtain ⟨hrest, hcache, hresult⟩ := hafter.of_refused hauto hrefused
    exact ⟨hrest, hcache, hresult, exists_invalidInput_of_registrationSchema hrefused⟩

/-- A schema with nothing in it and a definition that is no text. -/
def hollow : StoredSchema :=
  ⟨⟨"", 0, .epoch⟩, [0xFF]⟩

/-- A client has such a schema, or has none. -/
theorem absent_iff_no_schema_hollow :
  let found := (find ⟨"users", .unspecified⟩ .empty).run .scripted .live ⟨[], [.ok (some hollow)]⟩
  let call := findOrRegister .default ⟨"users", .unspecified⟩ ⟨"", "User"⟩ .empty
  let refused := findOrRegister .default ⟨"users", .unspecified⟩ .missing .empty
  (∃ record, found.result = .ok record ∧ record.isNone = false) ∧
  (∃ rest, call.heard .scripted .live ⟨[], [.ok none]⟩ =
      .found ⟨"users", .unspecified⟩ (.ok none) :: rest ∧
    (¬ LookupsOnly rest ∨
      (call.run .scripted .live ⟨[], [.ok none]⟩).result = .error (.notRegistered ⟨"", "User"⟩))) ∧
  (refused.run .scripted .live ⟨[], [.ok none]⟩).result = .error (.invalidInput .missingType)
  := by
  dsimp only
  have hname : ¬ SchemaInfo.NameMissing ⟨"users", .unspecified⟩ := by decide
  have hfound := (absent_iff_no_schema .scripted .live ⟨[], [.ok (some hollow)]⟩ .empty).1
    ⟨"users", .unspecified⟩ (hollow.record _) hname rfl
  have hafter := (absent_iff_no_schema .scripted .live ⟨[], [.ok none]⟩ .empty).2 .default
    ⟨"users", .unspecified⟩
  refine ⟨⟨hollow.record ⟨"users", .unspecified⟩, rfl, ?_⟩, ⟨_, rfl, ?_⟩, ?_⟩
  · rw [Bool.eq_false_iff]
    intro hnone
    cases hfound.1 hnone
  · apply ((hafter ⟨"", "User"⟩ _ (.ok none) _ rfl).1 (by simp)).2
    exact ⟨rfl, fun _ => ⟨_, rfl⟩⟩
  · obtain ⟨-, -, hresult, -⟩ := (hafter .missing _ (.ok none) [] rfl).2 _ rfl rfl rfl
    apply hresult

/-- After a look-up that finds no schema, a discovery for the missing type neither attempts to
create one nor reports that the type is not registered. -/
theorem not_creates_or_notRegistered_iff_no_schema :
  ¬ ∀ (σ : Type) (client : Client σ) (s : σ) (o : Options) (c : TypeCache)
      (info schema : SchemaInfo) (type : MessageType)
      (answer : Except Failure (Option StoredSchema)) (rest : List Exchange),
    let call := findOrRegister o info type c
    ¬ info.NameMissing → call.heard client .live s = .found schema answer :: rest →
      ((¬ LookupsOnly rest ∨ (call.run client .live s).result = .error (.notRegistered type)) ↔
        answer = .ok none)
  := by
  intro h
  rcases (h Store (.inMemory fun _ => .epoch) .empty .default .empty ⟨"users", .json⟩
    ⟨"users", .json⟩ .missing (.ok none) [] (by decide) rfl).2 rfl with hcreates | hresult
  · apply hcreates lookupsOnly_nil
  · cases hresult

end Resolution

end WireSchemas
