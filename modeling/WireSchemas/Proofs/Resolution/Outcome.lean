import WireSchemas.Proofs.Remote.Outcome
import WireSchemas.Proofs.Resolution.Coherence

/-!
# What the resolution comes to

Whatever the remote registry answers, an operation that fails leaves the cache as it was, and it
fails with the failure of a call just as that was answered.  An operation that succeeds has no
failed call, and it binds its schema at most.
-/

namespace WireSchemas

open Remote

/-- A schema agrees with a schema info that it is resolved from: it has the format of the info, and
its name if it has one. -/
structure SchemaInfo.Agrees (schema info : SchemaInfo) : Prop where
  format : schema.format = info.format
  name : ¬ info.NameMissing → schema.name = info.name

/-- A failure that the resolution of schemas finds without a call. -/
def Failure.IsRefusal : Failure → Prop
  | invalidInput _ => True
  | notRegistered _ => True
  | _ => False

namespace Resolution

variable {α β : Type} {xs ys : List Exchange}

/-- A result passes on the failures of calls: it is the failure of any call that failed, and a
failure of its own is a refusal. -/
structure Faithful (xs : List Exchange) (result : Except Failure α) : Prop where
  passes : ∀ x ∈ xs, ∀ f, x.failure? = some f → result = .error f
  own : ∀ f, result = .error f → (∃ x ∈ xs, x.failure? = some f) ∨ f.IsRefusal

namespace Faithful

theorem nil (a : α) :
  Faithful [] (.ok a)
  := ⟨by simp, by simp⟩

theorem refused {f : Failure} (h : f.IsRefusal) :
  Faithful (α := α) [] (.error f)
  := by
  constructor
  · simp
  · rintro g ⟨⟩
    exact .inr h

theorem answered {x : Exchange} {result : Except Failure α}
    (h : ∀ f, x.failure? = some f ↔ result = .error f) :
  Faithful [x] result
  := by
  constructor
  · intro y hy f hf
    obtain rfl := List.mem_singleton.1 hy
    apply (h f).1 hf
  · intro f hf
    exact .inl ⟨x, List.mem_singleton_self x, (h f).2 hf⟩

/-- A failure is passed on in whatever place it comes up. -/
theorem error {f : Failure} (h : Faithful (α := α) xs (.error f)) :
  Faithful (α := β) xs (.error f)
  := by
  constructor
  · intro x hx g hg
    obtain rfl : f = g := by simpa using h.passes x hx g hg
    rfl
  · rintro g ⟨⟩
    apply h.own f rfl

/-- After a success only later calls can have failed. -/
theorem append {a : α} {result : Except Failure β} (hxs : Faithful xs (.ok a))
    (hys : Faithful ys result) :
  Faithful (xs ++ ys) result
  := by
  constructor
  · intro x hx f hf
    rcases List.mem_append.1 hx with hx | hx
    · cases hxs.passes x hx f hf
    · apply hys.passes x hx f hf
  · intro f hf
    rcases hys.own f hf with ⟨x, hx, hxf⟩ | hrefusal
    · exact .inl ⟨x, List.mem_append_right xs hx, hxf⟩
    · exact .inr hrefusal

end Faithful

/-! ### Look-ups -/

/-- What an operation that only looks schemas up comes to: the cache as it was, and a faithful
result. -/
structure Looks (c : TypeCache) (found : α → Prop) (xs : List Exchange) (c' : TypeCache)
    (result : Except Failure α) : Prop where
  cache : c' = c
  faithful : Faithful xs result
  found : ∀ a, result = .ok a → found a

variable {c : TypeCache}

theorem Looks.refused {found : α → Prop} {f : Failure} (h : f.IsRefusal) :
  Looks c found [] c (.error f)
  := ⟨rfl, .refused h, by simp⟩

theorem Looks.nil {found : α → Prop} {a : α} (h : found a) :
  Looks c found [] c (.ok a)
  := by
  refine ⟨rfl, .nil a, ?_⟩
  rintro b ⟨⟩
  apply h

theorem Looks.andThen {op : Operation (Except Failure α)}
    {next : α → Operation (Except Failure β)} {found : α → Prop} {found' : β → Prop}
    (h : (op c).Ensures (Looks c found))
    (hnext : ∀ a, found a → (next a c).Ensures (Looks c found')) :
  (op.andThen next c).Ensures (Looks c found')
  := by
  apply Operation.ensures_andThen h
  · intro xs c' f hf
    exact ⟨hf.cache, hf.faithful.error, by simp⟩
  · intro xs c' a ha
    obtain rfl := ha.cache
    apply (hnext a (ha.found a rfl)).imp
    intro ys c' result hr
    exact ⟨hr.cache, ha.faithful.append hr.faithful, hr.found⟩

/-- A look-up gives the record of its schema, or that of a schema not found. -/
theorem ensures_find (info : SchemaInfo) (c : TypeCache) :
  (find info c).Ensures
    (Looks c fun r => r = .none ∨ ¬ info.NameMissing ∧ r.info = info)
  := by
  rw [find]
  split
  · apply Looks.refused
    exact trivial
  · next hname =>
    intro answer
    refine ⟨rfl, .answered ?_, ?_⟩
    · intro f
      cases answer <;> simp [Exchange.failure?, Except.map]
    · intro r hr
      cases answer with
      | error f => cases hr
      | ok found =>
        cases found with
        | none =>
          left
          exact (Except.ok.inj hr).symm
        | some stored =>
          right
          obtain rfl := Except.ok.inj hr
          exact ⟨hname, rfl⟩

/-- A look-up of a named schema gives what the store has of it. -/
theorem run_find {clock : Nat → Timestamp} {info : SchemaInfo} (hname : ¬ info.NameMissing)
    (c : TypeCache) (s : Store) :
  (find info c).run (.inMemory clock) .live s =
    ⟨.ok (foundRecord info (s.latest? info)), c, s, .live, [.lookup info]⟩
  := by
  simp only [find, hname, if_false, Process.run, Token.call, Client.inMemory_lookup, Except.map]
  cases s.latest? info <;> rfl

/-- The schema that is known for an info and a type agrees with the info. -/
theorem ensures_findKnown (info : SchemaInfo) (type : MessageType) (c : TypeCache) :
  (findKnown info type c).Ensures (Looks c fun r => r = .none ∨ r.info.Agrees info)
  := by
  rw [findKnown]
  split
  · next hname =>
    split
    · next subject hsubject =>
      apply (ensures_find _ c).imp
      intro xs c' result h
      refine ⟨h.cache, h.faithful, fun r hr => (h.found r hr).imp_right ?_⟩
      rintro ⟨-, hinfo⟩
      rw [hinfo]
      exact ⟨rfl, fun hnamed => absurd hname hnamed⟩
    · apply Looks.nil (.inl rfl)
  · apply (ensures_find info c).imp
    intro xs c' result h
    refine ⟨h.cache, h.faithful, fun r hr => (h.found r hr).imp_right ?_⟩
    rintro ⟨-, hinfo⟩
    rw [hinfo]
    exact ⟨rfl, fun _ => rfl⟩

theorem ensures_findAll (infos : List SchemaInfo) (c : TypeCache) :
  (findAll infos c).Ensures (Looks c fun _ => True)
  := by
  induction infos with
  | nil => apply Looks.nil trivial
  | cons info rest ih =>
    apply Looks.andThen (ensures_find info c)
    intro r hr
    apply Looks.andThen ih
    intro rs hrs
    apply Looks.nil trivial

/-- What the resolution of an info and a type comes to: a failure changes nothing, and a success
binds the type, unless it is missing, to a schema that agrees with the info. -/
structure Resolves (info : SchemaInfo) (type : MessageType) (c : TypeCache) (xs : List Exchange)
    (c' : TypeCache) (result : Except Failure RegisteredSchema) : Prop where
  faithful : Faithful xs result
  unchanged : ∀ f, result = .error f → c' = c
  agrees : ∀ r, result = .ok r → r.info.Agrees info
  bound : ∀ r, result = .ok r → c' = if type.isMissing then c else c.bind type r.info

variable {info schema : SchemaInfo} {type : MessageType} {o : Options}

theorem Resolves.failed {f : Failure} (h : Faithful (α := RegisteredSchema) xs (.error f)) :
  Resolves info type c xs c (.error f)
  := ⟨h, fun _ _ => rfl, by simp, by simp⟩

theorem Resolves.resolved {r : RegisteredSchema} (h : Faithful xs (.ok r))
    (hagrees : r.info.Agrees info) :
  Resolves info type c xs (if type.isMissing then c else c.bind type r.info) (.ok r)
  := by
  refine ⟨h, by simp, ?_, ?_⟩
  · rintro r' ⟨⟩
    apply hagrees
  · rintro r' ⟨⟩
    rfl

theorem Resolves.append {c' : TypeCache} {a : α} {result : Except Failure RegisteredSchema}
    (hxs : Faithful xs (.ok a)) (h : Resolves info type c ys c' result) :
  Resolves info type c (xs ++ ys) c' result
  := ⟨hxs.append h.faithful, h.unchanged, h.agrees, h.bound⟩

/-- The schema of a resolution is bound to the type. -/
theorem Resolves.typeOf {c' : TypeCache} {r : RegisteredSchema}
    (h : Resolves info type c xs c' (.ok r)) (htype : type.isMissing = false) :
  c'.typeOf r.info = type
  := by
  simp [h.bound r rfl, htype, TypeCache.typeOf, TypeCache.type?_bind]

theorem exists_invalidInput_of_schemaName {s : Naming.Strategy} {streamName : Option String}
    {f : Failure} (h : s.schemaName type streamName = .error f) :
  ∃ cause, f = .invalidInput cause
  := by
  simp only [Naming.Strategy.schemaName] at h
  split at h
  · exact ⟨_, (Except.error.inj h).symm⟩
  · split at h
    · exact ⟨_, (Except.error.inj h).symm⟩
    · cases h

theorem exists_invalidInput_of_subject {rule : Naming.SubjectRule} {stream : StreamId}
    {f : Failure} (h : rule.subject type stream = .error f) :
  ∃ cause, f = .invalidInput cause
  := by
  cases rule with
  | fullName =>
    simp only [Naming.SubjectRule.subject] at h
    split at h
    · exact ⟨_, (Except.error.inj h).symm⟩
    · cases h
  | strategy s => apply exists_invalidInput_of_schemaName h

/-- A type that can be registered under no schema is an invalid argument. -/
theorem exists_invalidInput_of_registrationSchema {f : Failure}
    (h : o.registrationSchema info type = .error f) :
  ∃ cause, f = .invalidInput cause
  := by
  simp only [Options.registrationSchema, Options.schemaInfo] at h
  split at h
  · exact ⟨_, (Except.error.inj h).symm⟩
  · split at h
    · cases hsubject : o.subjectRule.subject type .none with
      | error g =>
        obtain rfl : g = f := by simpa [hsubject, Except.map] using h
        apply exists_invalidInput_of_subject hsubject
      | ok subject => simp [hsubject, Except.map] at h
    · cases h

theorem registrationSchema_agrees (h : o.registrationSchema info type = .ok schema) :
  schema.Agrees info
  := by
  obtain ⟨-, ⟨hname, rfl⟩ | ⟨hname, subject, -, rfl⟩⟩ := registrationSchema_cases h
  · exact ⟨rfl, fun _ => rfl⟩
  · exact ⟨rfl, fun hnamed => absurd hname hnamed⟩

theorem ensures_register (o : Options) (info : SchemaInfo) (definition : String)
    (type : MessageType) (c : TypeCache) :
  (register o info definition type c).Ensures (Resolves info type c)
  := by
  rw [register]
  split
  · next f hf =>
    obtain ⟨cause, rfl⟩ := exists_invalidInput_of_registrationSchema hf
    apply Resolves.failed (.refused _)
    exact trivial
  · next schema hschema =>
    have htype := (registrationSchema_cases hschema).1
    have hagrees := registrationSchema_agrees hschema
    intro answer
    cases answer with
    | error f =>
      apply Resolves.failed (.answered _)
      simp [Exchange.failure?]
    | ok revision =>
      have hfaithful : Faithful [.created ⟨schema, definitionBytes definition⟩ (.ok revision)]
          (.ok (newRecord schema definition revision)) := by
        apply Faithful.answered
        simp [Exchange.failure?]
      have hbound : Resolves info type c _ (if type.isMissing then c else c.bind type schema) _ :=
        .resolved hfaithful hagrees
      rw [htype] at hbound
      apply hbound

theorem ensures_findOrRegister (o : Options) (info : SchemaInfo) (type : MessageType)
    (c : TypeCache) :
  (findOrRegister o info type c).Ensures (Resolves info type c)
  := by
  apply Operation.ensures_andThen (ensures_findKnown info type c)
  · intro xs c' f h
    obtain rfl := h.cache
    apply Resolves.failed h.faithful.error
  intro xs c' r h
  obtain rfl := h.cache
  split
  · next hfound =>
    -- a schema was found, and nothing is called after that
    obtain rfl | hagrees := h.found r rfl
    · simp [RegisteredSchema.isNone] at hfound
    · rw [Process.Ensures, List.append_nil]
      apply Resolves.resolved h.faithful hagrees
  · split
    · rw [Process.Ensures]
      apply Resolves.append h.faithful (.failed (.refused _))
      exact trivial
    · apply (ensures_register o info "" type c').imp
      intro ys c'' result hr
      apply hr.append h.faithful

end Resolution

end WireSchemas
