import Mathlib.Data.Fin.VecNotation
import WireSchemas.Proofs.Registry.NamedDiscovery
import WireSchemas.Settings

/-!
# Two default settings

The default options of a registry name a type by its full name, and those of the default settings by
the strategy that joins its scope and its name.  Only a type without a scope tells them apart: the
full name drops the dot of an empty scope, and the strategy writes it.  What differs is the subject
of such a type where a request names no schema, and nothing else: `Registries.default_settings`.
-/

namespace WireSchemas

open Remote Resolution

variable {n : Nat} {σ : Type}

/-- A type that is not missing and has no scope. -/
structure MessageType.Unscoped (type : MessageType) : Prop where
  scope : type.scope = ""
  notMissing : type.isMissing = false

/-- The options of the default settings: the scope and the name of a type make its subject, and
unseen types are registered. -/
def Options.configured : Options :=
  ⟨.strategy ⟨.message, .none⟩, true⟩

/-! ### Subjects -/

/-- The dot of an empty scope changes the name. -/
theorem MessageType.scope_append_eq_fullName_iff {type : MessageType} :
  type.scope ++ "." ++ type.name = type.fullName ↔ type.scope ≠ ""
  := by
  rw [fullName]
  by_cases hscope : type.scope = ""
  · have hlength : ("." ++ type.name).length ≠ type.name.length := by simp
    have hne : "." ++ type.name ≠ type.name := fun h => hlength (congrArg String.length h)
    simp [hscope, hne]
  · simp [hscope]

namespace Options

variable {type : MessageType} {info : SchemaInfo}

theorem subject_configured (type : MessageType) (stream : StreamId) :
  Options.configured.subjectRule.subject type stream =
    if type.isMissing then .error (.invalidInput .missingType)
    else .ok (type.scope ++ "." ++ type.name)
  := by
  simp [Options.configured, Naming.SubjectRule.subject, Naming.Strategy.schemaName,
    Naming.Strategy.requiresStream, Naming.Strategy.scopeFor, Naming.OutputFormat.render]

theorem subject_default (type : MessageType) (stream : StreamId) :
  Options.default.subjectRule.subject type stream =
    if type.isMissing then .error (.invalidInput .missingType) else .ok type.fullName
  := rfl

theorem subject_eq_iff (stream : StreamId) :
  Options.configured.subjectRule.subject type stream =
      Options.default.subjectRule.subject type stream ↔ ¬ type.Unscoped
  := by
  rw [subject_configured, subject_default]
  cases hmissing : type.isMissing with
  | true =>
    simp only [if_true, true_iff]
    rintro ⟨-, hpresent⟩
    cases hmissing.symm.trans hpresent
  | false =>
    simp only [Bool.false_eq_true, if_false, Except.ok.injEq,
      MessageType.scope_append_eq_fullName_iff]
    constructor
    · intro hscope hunscoped
      apply hscope hunscoped.scope
    · intro hscoped hscope
      apply hscoped ⟨hscope, hmissing⟩

/-- A registration that names no schema is of the derived subject. -/
theorem registrationSchema_of_unnamed {o : Options} {subject : String} (hname : info.NameMissing)
    (htype : type.isMissing = false) (hsubject : o.subjectRule.subject type .none = .ok subject) :
  o.registrationSchema info type = .ok ⟨subject, info.format⟩
  := by
  simp [registrationSchema, schemaInfo, htype, hname, hsubject, Except.map]

theorem registrationSchema_eq_iff :
  Options.configured.registrationSchema info type = Options.default.registrationSchema info type ↔
    ¬ (info.NameMissing ∧ type.Unscoped)
  := by
  by_cases hname : info.NameMissing
  · rw [and_iff_right hname, ← subject_eq_iff .none]
    cases hmissing : type.isMissing with
    | true => simp [registrationSchema, subject_configured, subject_default, hmissing]
    | false =>
      simp [registrationSchema, schemaInfo, subject_configured, subject_default, hmissing, hname,
        Except.map]
  · simp [registrationSchema, hname]

end Options

/-! ### Requests -/

/-- The info and the type that a request resolves a schema for, if it resolves one. -/
def Request.resolution? : Request → Option (SchemaInfo × MessageType)
  | register info _ type => some (info, type)
  | q => q.discovery?.map fun d => (d.info, d.type)

theorem Request.resolution?_of_discovery? {q : Request} {d : Discovery}
    (h : q.discovery? = some d) :
  q.resolution? = some (d.info, d.type)
  := by
  cases q with
  | register info definition type => cases h
  | _ => exact congrArg (Option.map fun d : Discovery => (d.info, d.type)) h

/-- A request leaves the subject of a type without a scope to its registry. -/
def Request.NamesUnscoped (q : Request) : Prop :=
  ∃ info type, q.resolution? = some (info, type) ∧ info.NameMissing ∧ type.Unscoped

section

variable {o o' : Options} {info schema : SchemaInfo} {type : MessageType}

theorem Resolution.register_congr
    (h : o.registrationSchema info type = o'.registrationSchema info type) (definition : String) :
  register o info definition type = register o' info definition type
  := by
  funext c
  rw [register, register, h]

theorem Resolution.findOrRegister_congr (hauto : o.autoRegister = o'.autoRegister)
    (h : o.registrationSchema info type = o'.registrationSchema info type) :
  findOrRegister o info type = findOrRegister o' info type
  := by
  rw [findOrRegister, findOrRegister, hauto, register_congr h]

theorem Codec.serialize_congr (hauto : o.autoRegister = o'.autoRegister) {codec : Codec}
    {catalog : Catalog} {message : Option Message} {headers : Headers}
    (h : ∀ d, codec.discovery? catalog message headers = some d →
      o.registrationSchema d.info d.type = o'.registrationSchema d.info d.type) :
  codec.serialize o catalog message headers = codec.serialize o' catalog message headers
  := by
  cases himmediate : codec.immediate? (SchemaInfo.ofHeaders headers) message with
  | some body =>
    funext c
    rw [serialize_of_immediate? himmediate, serialize_of_immediate? himmediate]
  | none =>
    obtain ⟨hformat, m, rfl, hraw⟩ := exists_record_of_immediate?_eq_none himmediate
    have hschema := h _ (if_pos ⟨hformat, hraw⟩)
    rw [serialize_record o catalog hformat hraw, serialize_record o' catalog hformat hraw,
      findOrRegister_congr hauto hschema]

/-- Options matter to a request by the schema that it would register. -/
theorem Request.operation_congr (hauto : o.autoRegister = o'.autoRegister) {q : Request}
    (h : ∀ info type, q.resolution? = some (info, type) →
      o.registrationSchema info type = o'.registrationSchema info type) :
  q.operation o = q.operation o'
  := by
  have hdiscovery {d : Discovery} (hd : q.discovery? = some d) :
      o.registrationSchema d.info d.type = o'.registrationSchema d.info d.type :=
    h _ _ (resolution?_of_discovery? hd)
  cases q with
  | register info definition type =>
    rw [operation, operation, register_congr (h info type rfl)]
  | find info => rfl
  | findOrRegister info type =>
    rw [operation, operation, findOrRegister_congr hauto (h info type rfl)]
  | list type format => rfl
  | serialize codecs catalog message headers =>
    cases hcodec : codecs.get? (SchemaInfo.ofHeaders headers).format with
    | none => simp [operation, Registry.serialize, Registry.codec, hcodec, Registry.formats]
    | some codec =>
      simp only [operation, Registry.serialize, Registry.codec, hcodec, Registry.serializeBy]
      rw [Codec.serialize_congr hauto]
      intro d hd
      apply hdiscovery
      simpa only [discovery?, hcodec] using hd
  | serializeBy codec catalog message headers =>
    rw [operation, operation, Codec.serialize_congr hauto fun d hd => hdiscovery hd]

/-- A fresh registry starts a request that names no schema with the creation of the schema that it
registers. -/
theorem Request.calls_run_of_resolution? (hauto : o.autoRegister = true) {q : Request}
    (h : q.resolution? = some (info, type)) (hname : info.NameMissing)
    (hschema : o.registrationSchema info type = .ok schema) :
  ∃ definition, ((q.operation o .empty).run (.inMemory fun _ => .epoch) .live .empty).calls =
    [.create ⟨schema, definition⟩]
  := by
  have hregister (definition : String) :
      ((Resolution.register o info definition type .empty).run (.inMemory fun _ => .epoch) .live
        .empty).calls = [.create ⟨schema, definitionBytes definition⟩] := by
    rw [run_register hschema]
  cases hd : q.discovery? with
  | some d =>
    obtain ⟨rfl, rfl⟩ := Prod.mk.inj (Option.some.inj ((resolution?_of_discovery? hd).symm.trans h))
    have hunknown : knownSchema? .empty d.info d.type = none :=
      knownSchema?_eq_none_iff.2 ⟨hname, rfl⟩
    rw [run_of_discovery? hd, findOrRegister_of_unknown hunknown,
      registerMissed_of_autoRegister hauto]
    exact ⟨_, hregister ""⟩
  | none =>
    cases q with
    | register info' definition type' =>
      obtain ⟨rfl, rfl⟩ := Prod.mk.inj (Option.some.inj h)
      rw [operation, Operation.map, Process.run_bind_done]
      exact ⟨_, hregister definition⟩
    | _ => simp [resolution?, hd] at h

end

/-- The default options tell just the requests apart that name a type without a scope. -/
theorem Request.operation_eq_iff {q : Request} :
  q.operation .configured = q.operation .default ↔ ¬ q.NamesUnscoped
  := by
  constructor
  · rintro hoperation ⟨info, type, h, hname, hunscoped⟩
    have htype := hunscoped.notMissing
    have hjoined : Options.configured.subjectRule.subject type .none =
        .ok (type.scope ++ "." ++ type.name) := by simp [Options.subject_configured, htype]
    have hfull : Options.default.subjectRule.subject type .none = .ok type.fullName := by
      simp [Options.subject_default, htype]
    obtain ⟨definition, hcalls⟩ := calls_run_of_resolution? rfl h hname
      (Options.registrationSchema_of_unnamed hname htype hjoined)
    obtain ⟨definition', hcalls'⟩ := calls_run_of_resolution? rfl h hname
      (Options.registrationSchema_of_unnamed hname htype hfull)
    rw [hoperation, hcalls'] at hcalls
    have hsubject : type.fullName = type.scope ++ "." ++ type.name := by
      injection hcalls with hcall
      injection hcall with hrequest
      exact congrArg (fun request => request.schema.name) hrequest
    apply MessageType.scope_append_eq_fullName_iff.1 hsubject.symm hunscoped.scope
  · intro h
    have hschema : ∀ info type, q.resolution? = some (info, type) →
        Options.configured.registrationSchema info type =
          Options.default.registrationSchema info type := by
      intro info type hresolution
      rw [Options.registrationSchema_eq_iff]
      rintro ⟨hname, hunscoped⟩
      apply h ⟨info, type, hresolution, hname, hunscoped⟩
    have hauto : Options.configured.autoRegister = Options.default.autoRegister := rfl
    apply operation_congr hauto hschema

/-! ### Sequences of requests -/

namespace Registries

theorem after_congr {client : Client σ} {settings settings' : Fin n → Options} {e : Errand n}
    (h : e.request.operation (settings e.owner) = e.request.operation (settings' e.owner))
    (r : Registries n σ) :
  r.outcome client settings e = r.outcome client settings' e ∧
    r.after client settings e = r.after client settings' e
  := by
  have houtcome : r.outcome client settings e = r.outcome client settings' e := by
    rw [outcome, outcome, h]
  refine ⟨houtcome, ?_⟩
  rw [after, after, houtcome]

/-- Registries that do the same for each request come to the same. -/
theorem run_congr {client : Client σ} {settings settings' : Fin n → Options}
    {es : List (Errand n)}
    (h : ∀ e ∈ es,
      e.request.operation (settings e.owner) = e.request.operation (settings' e.owner))
    (r : Registries n σ) :
  r.trace client settings es = r.trace client settings' es ∧
    r.run client settings es = r.run client settings' es
  := by
  induction es generalizing r with
  | nil => exact ⟨rfl, rfl⟩
  | cons e es ih =>
    obtain ⟨he, hes⟩ := List.forall_mem_cons.1 h
    obtain ⟨houtcome, hafter⟩ := after_congr he r
    obtain ⟨htrace, hrun⟩ := ih hes (r.after client settings' e)
    constructor
    · rw [trace, trace, houtcome, hafter, htrace]
    · rw [run, run, List.foldl_cons, List.foldl_cons, hafter]
      apply hrun

/-- The default settings give a registry with the three built-in serializers, whose subjects are
those of the default options for every type but one without a scope.  The subject of such a type has
a dot in front of the name, which the full name has not.  A request is the same to both unless it
leaves the subject of such a type to the registry.  So registries of both kinds over one remote
registry come to what registries with the default options come to, as long as there is no such
request. -/
theorem default_settings (type : MessageType) (stream : StreamId) :
  let subject := Options.configured.subjectRule.subject type stream
  let subject' := Options.default.subjectRule.subject type stream
  (Settings.options {} = .ok .configured ∧
    Settings.toRegistry {} = .ok (.standard .configured)) ∧
  (∀ f, subject = .error f ↔ subject' = .error f) ∧
  (subject = subject' ↔ ¬ type.Unscoped) ∧
  (type.Unscoped → subject = .ok ("." ++ type.name) ∧ subject' = .ok type.name) ∧
  (∀ q : Request, q.operation .configured = q.operation .default ↔ ¬ q.NamesUnscoped) ∧
  ∀ {n : Nat} {σ : Type} (client : Client σ) (settings : Fin n → Options) (r : Registries n σ)
    (es : List (Errand n)),
    (∀ owner, settings owner = .configured ∨ settings owner = .default) →
      (∀ e ∈ es, ¬ e.request.NamesUnscoped) →
        r.trace client settings es = r.trace client (fun _ => .default) es ∧
          r.run client settings es = r.run client (fun _ => .default) es
  := by
  intro subject subject'
  refine ⟨⟨rfl, rfl⟩, ?_, Options.subject_eq_iff stream, ?_, fun q => Request.operation_eq_iff, ?_⟩
  · intro f
    simp only [subject, subject', Options.subject_configured, Options.subject_default]
    cases type.isMissing <;> simp
  · intro hunscoped
    simp [subject, subject', Options.subject_configured, Options.subject_default,
      hunscoped.notMissing, hunscoped.scope, MessageType.fullName]
  · intro n σ client settings r es hsettings hes
    apply run_congr
    intro e he
    rcases hsettings e.owner with howner | howner
    · rw [howner]
      apply Request.operation_eq_iff.2 (hes e he)
    · rw [howner]

/-- A producer with the default settings and a consumer with the default options, each asked for the
schema of a type. -/
def discoveries (type : MessageType) : List (Errand 2) :=
  let producer : Fin 2 := ⟨0, Nat.zero_lt_two⟩
  let consumer : Fin 2 := ⟨1, Nat.one_lt_two⟩
  [⟨⟨producer, .findOrRegister ⟨"", .json⟩ type⟩, .live⟩,
    ⟨⟨consumer, .findOrRegister ⟨"", .json⟩ type⟩, .live⟩]

theorem scoped_default_settings :
  let settings : Fin 2 → Options := ![.configured, .default]
  let type : MessageType := ⟨"Identity", "UserRegistered"⟩
  let es := discoveries type
  let r := (start .empty).run (.inMemory fun _ => .epoch) settings es
  ((∀ owner, settings owner = .configured ∨ settings owner = .default) ∧
    ∀ e ∈ es, ¬ e.request.NamesUnscoped) ∧
    r = (start .empty).run (.inMemory fun _ => .epoch) (fun _ => .default) es ∧
    r.remote.size = 1
  := by
  intro settings type es r
  have hsettings : ∀ owner, settings owner = .configured ∨ settings owner = .default := by
    decide
  have hes : ∀ e ∈ es, ¬ e.request.NamesUnscoped := by
    rintro e he ⟨info, type', hresolution, -, hunscoped⟩
    simp only [es, discoveries, List.mem_cons, List.not_mem_nil, or_false] at he
    rcases he with rfl | rfl
    all_goals
      obtain ⟨rfl, rfl⟩ := Prod.mk.inj (Option.some.inj hresolution)
      exact absurd hunscoped.scope (by decide)
  obtain ⟨-, -, -, -, -, hrun⟩ := default_settings type .none
  obtain ⟨-, hrun⟩ := hrun (.inMemory fun _ => .epoch) settings (start .empty) es hsettings hes
  refine ⟨⟨hsettings, hes⟩, hrun, ?_⟩
  decide +kernel

/-- A type without a scope has two subjects, and so two schemas. -/
theorem not_default_settings :
  (¬ ∀ (type : MessageType) (stream : StreamId),
    Options.configured.subjectRule.subject type stream =
      Options.default.subjectRule.subject type stream) ∧
  let settings : Fin 2 → Options := ![.configured, .default]
  let r := (start .empty).run (.inMemory fun _ => .epoch) settings (discoveries ⟨"", "Ping"⟩)
  r.remote.size = 2 ∧
    (r.caches 0).typeOf ⟨".Ping", .json⟩ = ⟨"", "Ping"⟩ ∧
    (r.caches 1).typeOf ⟨"Ping", .json⟩ = ⟨"", "Ping"⟩
  := by
  constructor
  · intro h
    apply (Options.subject_eq_iff .none).1 (h ⟨"", "Ping"⟩ .none)
    exact ⟨rfl, rfl⟩
  · decide +kernel

end Registries

end WireSchemas
