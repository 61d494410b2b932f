import WireSchemas.Proofs.Registry.Confinement
import WireSchemas.Proofs.Resolution.Outcome

/-!
# Blank subjects

A name that is blank counts as missing, and a look-up refuses it.  The subject that a strategy
derives is never blank, and neither is a full name, but for types without a scope whose name is
blank and not empty.  These are registered under their blank name, and are not found again.  In
every interleaving, over any remote registry, no other blank subject is created or bound, so that no
other look-up of a schema that was registered fails for its name.
-/

namespace WireSchemas

open Remote Resolution

variable {σ τ : Type}

/-- With given settings a type is registered under a schema with a blank name: under the full name
of an invisible type. -/
structure Options.RegistersBlank (o : Options) (type : MessageType) (schema : SchemaInfo) :
    Prop where
  rule : o.subjectRule = .fullName
  invisible : type.Invisible
  name : schema.name = type.name

namespace Resolution

variable {o : Options} {info schema : SchemaInfo} {type : MessageType} {c : TypeCache}

/-- The schema of a registration has no name only if it is registered blank. -/
theorem of_nameMissing_registrationSchema (h : o.registrationSchema info type = .ok schema)
    (hname : schema.NameMissing) :
  o.RegistersBlank type schema
  := by
  obtain ⟨-, ⟨hnamed, rfl⟩ | ⟨-, subject, hsubject, rfl⟩⟩ := registrationSchema_cases h
  · contradiction
  · obtain ⟨hrule, hinvisible, heq⟩ := Naming.SubjectRule.of_blank_subject hsubject hname
    exact ⟨hrule, hinvisible, heq⟩

/-- A look-up without a name fails for that. -/
theorem result_find_of_nameMissing (hname : info.NameMissing) (client : Client σ) (t : Token)
    (s : σ) :
  ((find info c).run client t s).result = .error (.invalidInput .missingName)
  := by
  simp [find, hname, Process.run]

/-- A failed look-up of a named schema is answered so. -/
theorem ensures_find_of_named (c : TypeCache) (hname : ¬ info.NameMissing) :
  (find info c).Ensures fun xs _ result =>
    ∀ f, result = .error f → ∃ x ∈ xs, x.failure? = some f
  := by
  rw [find, if_neg hname]
  intro answer f hf
  cases answer with
  | error g =>
    obtain rfl : g = f := by simpa [Except.map] using hf
    exact ⟨_, List.mem_singleton_self _, rfl⟩
  | ok found => cases hf

/-- Look-ups of named schemas fail only when one of them is answered so. -/
theorem ensures_findAll_of_named {infos : List SchemaInfo} (c : TypeCache)
    (hnamed : ∀ info ∈ infos, ¬ info.NameMissing) :
  (findAll infos c).Ensures fun xs _ result =>
    ∀ f, result = .error f → ∃ x ∈ xs, x.failure? = some f
  := by
  induction infos generalizing c with
  | nil =>
    rintro f ⟨⟩
  | cons info rest ih =>
    obtain ⟨hname, hrest⟩ := List.forall_mem_cons.1 hnamed
    apply Operation.ensures_andThen (ensures_find_of_named c hname)
    · rintro xs c' f hf g ⟨⟩
      apply hf f rfl
    · intro xs c' r _
      apply Operation.ensures_andThen (ih c' hrest)
      · rintro ys c'' f hf g ⟨⟩
        obtain ⟨x, hx, hxf⟩ := hf f rfl
        exact ⟨x, List.mem_append_right xs hx, hxf⟩
      · rintro ys c'' rs _ f ⟨⟩

end Resolution

/-- Blank names are created and bound only for types that are registered blank. -/
def Bounds.named (o : Options) : Bounds where
  creates schema := schema.NameMissing → ∃ type, o.RegistersBlank type schema
  binds type schema := schema.NameMissing → o.RegistersBlank type schema

theorem Bounds.named_admit (o : Options) (q : Request) :
  (named o).Admit o q
  := by
  constructor
  · intro type schema hnamed hname
    contradiction
  · intro _ info type schema hschema
    constructor
    · intro hname
      exact ⟨type, of_nameMissing_registrationSchema hschema hname⟩
    · apply of_nameMissing_registrationSchema hschema

namespace Remote.World

variable {settings : List Options} {jobs : List (Job settings.length)}

/-- A registry that may be asked for anything, beside others that may be asked for anything, over
any remote registry and in any interleaving.  It waits for the creation of a schema with a blank
name, has it carried out, binds it or returns its record only for a type that is registered blank.
So a look-up of the schema of a record that a registration returned fails for the name only then, or
when the remote registry itself answers so, and so does the list of the schemas of a type. -/
theorem blank_subjects (client : Client σ) (remote : σ) (settings : List Options)
    (jobs : List (Job settings.length)) (moves : List Move) (owner : Fin settings.length) :
  let o := settings.get owner
  let w := (startAt remote settings jobs).run client moves
  let h := (startAt remote settings jobs).history client moves
  (∀ i t, w.tasks[i]? = some t → t.owner = owner.val →
    (∀ request resume, t.stage = .creating request resume → request.schema.NameMissing →
      ∃ type, o.RegistersBlank type request.schema) ∧
    (∀ request answer, .created request answer ∈ exchangesOf i h → request.schema.NameMissing →
      ∃ type, o.RegistersBlank type request.schema)) ∧
  (∀ schema type,
    (w.cacheOf owner).type? schema = some type ∨ schema ∈ (w.cacheOf owner).bound type →
      schema.NameMissing → o.RegistersBlank type schema) ∧
  (∀ (i : Nat) (job : Job settings.length) (r : RegisteredSchema), jobs[i]? = some job →
    job.owner = owner → job.request.isRegister = true → w.result? i = some (.record (.ok r)) →
      ∀ (client' : Client τ) (token : Token) (s : τ) (c : TypeCache),
        let call := find r.info c
        (call.run client' token s).result = .error (.invalidInput .missingName) →
          (∃ type, o.RegistersBlank type r.info) ∨
            ∃ x ∈ call.heard client' token s, x.failure? = some (.invalidInput .missingName)) ∧
  ∀ (type : MessageType) (format : DataFormat) (client' : Client τ) (token : Token) (s : τ),
    let call := list type format (w.cacheOf owner)
    (call.run client' token s).result = .error (.invalidInput .missingName) →
      o.subjectRule = .fullName ∧ type.Invisible ∨
        ∃ x ∈ call.heard client' token s, x.failure? = some (.invalidInput .missingName)
  := by
  intro o w h
  have hb : ∀ job ∈ jobs, job.owner.val = owner.val →
      (Bounds.named o).Admit (settings.get job.owner) job.request := by
    intro job _ hj
    rw [Fin.eq_of_val_eq hj]
    apply Bounds.named_admit
  have hrun := keptTo_run client remote owner hb moves
  refine ⟨?_, ?_, ?_, ?_⟩
  · intro i t ht howner
    constructor
    · intro request resume hcreating
      apply hrun.awaited i t request resume ht howner hcreating
    · intro request answer hcreated
      apply hrun.created i t request answer ht howner hcreated
  · rintro schema type (htype | hmem)
    · apply hrun.covers.types schema type htype
    · apply hrun.covers.bound schema type hmem
  · intro i job r hjob howner hregister hresult client' token s c call hfailed
    by_cases hname : r.info.NameMissing
    · left
      apply hrun.returned i job r hjob (congrArg Fin.val howner) hregister hresult hname
    · right
      apply (ensures_find_of_named c hname).run client' token s _ hfailed
  · intro type format client' token s call hfailed
    by_cases hnamed : ∀ schema ∈ (w.cacheOf owner).schemasOf type format, ¬ schema.NameMissing
    · right
      apply (ensures_findAll_of_named _ hnamed).run client' token s _ hfailed
    · left
      simp only [not_forall, not_not] at hnamed
      obtain ⟨schema, hmem, hname⟩ := hnamed
      have hblank := hrun.covers.bound schema type (List.mem_of_mem_filter hmem) hname
      exact ⟨hblank.rule, hblank.invisible⟩

/-- A registry that takes full names for subjects is asked to register an invisible type. -/
def invisibleRegistration : List (Job 1) :=
  [⟨⟨0, Nat.zero_lt_one⟩, .register ⟨"", .json⟩ "" ⟨"", " "⟩⟩]

/-- The registration of an invisible type is excused at every point. -/
theorem blank_subjects_excused :
  let client := Client.inMemory fun _ => .epoch
  let w := (startAt .empty [.default] invisibleRegistration).run client (turns 1 1)
  (∃ type, Options.default.RegistersBlank type ⟨" ", .json⟩) ∧
    Options.default.RegistersBlank ⟨"", " "⟩ ⟨" ", .json⟩ ∧
    ((∃ type, Options.default.RegistersBlank type ⟨" ", .json⟩) ∨
      ∃ x ∈ (find ⟨" ", .json⟩ (w.cacheOf 0)).heard client .live w.remote,
        x.failure? = some (.invalidInput .missingName)) ∧
    (Options.default.subjectRule = .fullName ∧ MessageType.Invisible ⟨"", " "⟩ ∨
      ∃ x ∈ (list ⟨"", " "⟩ .json (w.cacheOf 0)).heard client .live w.remote,
        x.failure? = some (.invalidInput .missingName))
  := by
  intro client w
  have hname : SchemaInfo.NameMissing ⟨" ", .json⟩ := by decide
  obtain ⟨hbegun, -⟩ := blank_subjects (τ := Store) client .empty [.default] invisibleRegistration
    [.proceed 0] ⟨0, by decide⟩
  obtain ⟨-, hbound, hfind, hlist⟩ := blank_subjects (τ := Store) client .empty [.default]
    invisibleRegistration (turns 1 1) ⟨0, by decide⟩
  refine ⟨?_, ?_, ?_, ?_⟩
  · apply (hbegun 0 _ rfl rfl).1 _ _ rfl hname
  · apply hbound _ _ (.inl rfl) hname
  · apply hfind 0 _ _ rfl rfl rfl rfl client .live w.remote _ (result_find_of_nameMissing hname ..)
  · apply hlist _ _ client .live w.remote rfl

/-- An invisible type is registered and bound under a blank name.  The schema is in the store, and
neither a look-up of it nor the list of the schemas of the type finds it. -/
theorem not_found_invisible :
  let client := Client.inMemory fun _ => .epoch
  let w := (startAt .empty [.default] invisibleRegistration).run client (turns 1 1)
  let h := (startAt .empty [.default] invisibleRegistration).history client (turns 1 1)
  SchemaInfo.NameMissing ⟨" ", .json⟩ ∧
    (∃ answer, .created ⟨⟨" ", .json⟩, []⟩ answer ∈ exchangesOf 0 h) ∧
    (w.remote.latest? ⟨" ", .json⟩).isSome ∧
    (w.cacheOf 0).type? ⟨" ", .json⟩ = some ⟨"", " "⟩ ∧
    (∃ r, w.result? 0 = some (.record (.ok r)) ∧
      ((find r.info (w.cacheOf 0)).run client .live w.remote).result =
        .error (.invalidInput .missingName)) ∧
    ((list ⟨"", " "⟩ .json (w.cacheOf 0)).run client .live w.remote).result =
      .error (.invalidInput .missingName)
  := by
  intro client w h
  have hname : SchemaInfo.NameMissing ⟨" ", .json⟩ := by decide
  refine ⟨hname, ⟨_, List.mem_cons_self⟩, rfl, rfl, ⟨_, rfl, ?_⟩, rfl⟩
  apply result_find_of_nameMissing hname

end Remote.World

end WireSchemas
