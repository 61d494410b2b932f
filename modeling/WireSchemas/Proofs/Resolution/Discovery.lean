import WireSchemas.Proofs.Naming.Subject
import WireSchemas.Proofs.Registry.Reachable
import WireSchemas.Proofs.Remote.Outcome

/-!
# Discovery or creation

What `Resolution.findOrRegister` does depends on the schema that the cache knows for its arguments.
A call that succeeds takes one of two ways: it finds a schema in the store or makes a revision of it.
It leaves a cache that knows the schema of its record and a store that has it, so the same call
finds that schema again and changes nothing.  A schema that only the store knows is
not looked for when the name is missing.
-/

namespace WireSchemas

open Remote

namespace Resolution

/-- The schema that a cache knows for an info and a type: the named one, or that of the first
subject bound to the type. -/
def knownSchema? (c : TypeCache) (info : SchemaInfo) (type : MessageType) : Option SchemaInfo :=
  if info.NameMissing then (c.subject? type info.format).map info.withName else some info

variable {c : TypeCache} {info schema : SchemaInfo} {type : MessageType}

theorem findKnown_of_some (h : knownSchema? c info type = some schema) :
  findKnown info type c = find schema c
  := by
  simp only [knownSchema?] at h
  split at h
  · next hname =>
    obtain ⟨subject, hsubject, rfl⟩ := Option.map_eq_some_iff.1 h
    simp [findKnown, hname, hsubject]
  · next hname =>
    obtain rfl := Option.some.inj h
    simp [findKnown, hname]

theorem findKnown_of_none (h : knownSchema? c info type = none) :
  findKnown info type c = .done c (.ok .none)
  := by
  simp only [knownSchema?] at h
  split at h
  · next hname =>
    have hsubject := Option.map_eq_none_iff.1 h
    simp [findKnown, hname, hsubject]
  · cases h

theorem knownSchema?_eq_none_iff :
  knownSchema? c info type = none ↔ info.NameMissing ∧ c.subject? type info.format = none
  := by
  by_cases hname : info.NameMissing <;> simp [knownSchema?, hname]

/-- A schema that is known without a name of its own is bound to the type. -/
theorem bind_known (hc : c.Inverse) (hname : info.NameMissing)
    (h : knownSchema? c info type = some schema) :
  c.bind type schema = c
  := by
  simp only [knownSchema?, hname, if_true] at h
  obtain ⟨subject, hsubject, rfl⟩ := Option.map_eq_some_iff.1 h
  have hbound := TypeCache.subject?_eq_some hsubject
  apply TypeCache.bind_eq_self ((hc _ _).2 hbound) hbound

theorem knownSchema?_bind_known (hc : c.Inverse) (h : knownSchema? c info type = some schema) :
  knownSchema? (c.bind type schema) info type = some schema
  := by
  by_cases hname : info.NameMissing
  · rw [bind_known hc hname h, h]
  · simpa [knownSchema?, hname] using h

/-- A schema that is known without a name of its own is in the store. -/
theorem isSome_latest?_known {s : Store} (hc : Coherent s c) (hname : info.NameMissing)
    (h : knownSchema? c info type = some schema) :
  (s.latest? schema).isSome
  := by
  simp only [knownSchema?, hname, if_true] at h
  obtain ⟨subject, hsubject, rfl⟩ := Option.map_eq_some_iff.1 h
  apply hc.isSome_latest? hsubject

/-- The first schema that a type is registered under in a format is known then. -/
theorem knownSchema?_bind {o : Options} (h : o.registrationSchema info type = .ok schema)
    (hfree : info.NameMissing → c.subject? type info.format = none) :
  knownSchema? (c.bind type schema) info type = some schema
  := by
  obtain ⟨-, ⟨hname, rfl⟩ | ⟨hname, subject, -, rfl⟩⟩ := registrationSchema_cases h
  · simp [knownSchema?, hname]
  · have hbound :
        (c.bind type ⟨subject, info.format⟩).subject? type info.format = some subject := by
      apply TypeCache.subject?_bind_of_eq_none
      apply hfree hname
    simp only [knownSchema?, hname, if_true, hbound]
    rfl

/-! ### Single calls -/

/-- What is done about a schema that was not found. -/
def registerMissed (o : Options) (info : SchemaInfo) (type : MessageType) :
    Operation (Except Failure RegisteredSchema) := fun cache =>
  if !o.autoRegister then .done cache (.error (.notRegistered type))
  else register o info "" type cache

variable {clock : Nat → Timestamp} {o : Options} {s : Store} {stored : StoredSchema}

theorem registerMissed_of_autoRegister (hauto : o.autoRegister = true) :
  registerMissed o info type c = register o info "" type c
  := by
  simp [registerMissed, hauto]

theorem registerMissed_of_not_autoRegister (hauto : o.autoRegister = false) :
  registerMissed o info type c = .done c (.error (.notRegistered type))
  := by
  simp [registerMissed, hauto]

theorem isNone_record (schema : SchemaInfo) (hid : stored.revision.id ≠ "") :
  (stored.record schema).isNone = false
  := by
  simp [RegisteredSchema.isNone, RegisteredSchema.none, StoredSchema.record, hid]

@[simp]
theorem info_record (stored : StoredSchema) (schema : SchemaInfo) :
  (stored.record schema).info = schema
  := rfl

theorem findOrRegister_of_unknown (hknown : knownSchema? c info type = none) :
  findOrRegister o info type c = registerMissed o info type c
  := by
  simp [findOrRegister, Operation.andThen, findKnown_of_none hknown, Process.bind,
    RegisteredSchema.isNone, registerMissed]

/-- A known schema that the store has is found, and bound to a type that is not missing. -/
theorem run_findOrRegister_of_stored (hknown : knownSchema? c info type = some schema)
    (hname : ¬ schema.NameMissing) (hs : s.latest? schema = some stored)
    (hid : stored.revision.id ≠ "") :
  (findOrRegister o info type c).run (.inMemory clock) .live s =
    ⟨.ok (stored.record schema), if type.isMissing then c else c.bind type schema, s, .live,
      [.lookup schema]⟩
  := by
  simp [findOrRegister, Operation.andThen, findKnown_of_some hknown, find, hname, Process.bind,
    Process.run, Token.call, hs, Except.map, isNone_record schema hid, Outcome.after]

/-- A known schema that the store does not have is registered, if that is allowed. -/
theorem run_findOrRegister_of_missed (hknown : knownSchema? c info type = some schema)
    (hname : ¬ schema.NameMissing) (hs : s.latest? schema = none) :
  (findOrRegister o info type c).run (.inMemory clock) .live s =
    ((registerMissed o info type c).run (.inMemory clock) .live s).after true (.lookup schema)
  := by
  simp [findOrRegister, Operation.andThen, findKnown_of_some hknown, find, hname, Process.bind,
    Process.run, Token.call, hs, Except.map, RegisteredSchema.isNone, registerMissed]

theorem findOrRegister_of_nameMissing (hknown : knownSchema? c info type = some schema)
    (hname : schema.NameMissing) :
  findOrRegister o info type c = .done c (.error (.invalidInput .missingName))
  := by
  simp [findOrRegister, Operation.andThen, findKnown_of_some hknown, find, hname, Process.bind]

/-- A registration makes the next revision and binds the schema. -/
theorem run_register {definition : String}
    (hschema : o.registrationSchema info type = .ok schema) :
  (register o info definition type c).run (.inMemory clock) .live s =
    let request : CreateRequest := ⟨schema, definitionBytes definition⟩
    let now := clock s.creates
    ⟨.ok (newRecord schema definition (s.nextRevision now request)), c.bind type schema,
      s.create now request, .live, [.create request]⟩
  := by
  simp [register, hschema, Process.run, Token.call, Outcome.after]

/-- Under any token, a look-up leaves the store as it was, and it is answered or cancelled. -/
theorem call_lookup (clock : Nat → Timestamp) (token : Token) (schema : SchemaInfo) (s : Store) :
  (token.call ((Client.inMemory clock).lookup schema) s).state = s ∧
    ((token.call ((Client.inMemory clock).lookup schema) s).answer = .ok (s.latest? schema) ∨
      (token.call ((Client.inMemory clock).lookup schema) s).answer = .error .cancelled)
  := by
  rcases token with _ | _ | ⟨_ | n, _ | _ | _⟩ <;> simp [Token.call]

/-- Under any token, a known schema that the store has is looked up at most, and unless that is
cancelled its record comes of it. -/
theorem looksUp_findOrRegister (clock : Nat → Timestamp) (o : Options) (token : Token)
    (hknown : knownSchema? c info type = some schema) (hname : ¬ schema.NameMissing)
    (hs : s.latest? schema = some stored) (hid : stored.revision.id ≠ "") :
  let out := (findOrRegister o info type c).run (.inMemory clock) token s
  (out.calls = [] ∨ out.calls = [.lookup schema]) ∧ out.state = s ∧
    (out.result = .ok (stored.record schema) ∨ out.result = .error .cancelled)
  := by
  intro out
  obtain ⟨hstate, hanswer⟩ := call_lookup clock token schema s
  simp only [out, findOrRegister, Operation.andThen, findKnown_of_some hknown, find, hname,
    if_false, Process.bind, Process.run]
  generalize token.call ((Client.inMemory clock).lookup schema) s = reply at hstate hanswer ⊢
  obtain ⟨answer, state, token', started⟩ := reply
  simp only at hstate hanswer ⊢
  rcases hanswer with rfl | rfl
  · cases started <;> simp [Process.run, Outcome.after, hs, Except.map, hstate,
      isNone_record schema hid]
  · cases started <;> simp [Process.run, Outcome.after, Except.map, hstate]

/-- Under any token, a known schema that the store has is the one that is discovered. -/
theorem info_findOrRegister_of_isSome {record : RegisteredSchema} (token : Token)
    (hknown : knownSchema? c info type = some schema) (hs : s.Identified)
    (hstored : (s.latest? schema).isSome)
    (hrecord : ((findOrRegister o info type c).run (.inMemory clock) token s).result =
      .ok record) :
  record.info = schema
  := by
  by_cases hname : schema.NameMissing
  · simp [findOrRegister_of_nameMissing hknown hname, Process.run] at hrecord
  · obtain ⟨stored, hlatest⟩ := Option.isSome_iff_exists.1 hstored
    obtain ⟨-, -, hresult⟩ := looksUp_findOrRegister clock o token hknown hname hlatest
      (hs schema stored hlatest)
    rcases hresult with hresult | hresult
    · rw [← Except.ok.inj (hresult.symm.trans hrecord), info_record]
    · cases hresult.symm.trans hrecord

/-- What a successful discovery does about its schema. -/
inductive Way where
  /-- It finds the schema in the store. -/
  | found (stored : StoredSchema)
  /-- It makes the next revision of the schema. -/
  | made

namespace Way

/-- The record that a discovery comes to. -/
def record (clock : Nat → Timestamp) (s : Store) (schema : SchemaInfo) : Way → RegisteredSchema
  | found stored => stored.record schema
  | made => newRecord schema "" (s.nextRevision (clock s.creates) ⟨schema, []⟩)

/-- The store that a discovery leaves. -/
def store (clock : Nat → Timestamp) (s : Store) (schema : SchemaInfo) : Way → Store
  | found _ => s
  | made => s.create (clock s.creates) ⟨schema, []⟩

@[simp]
theorem info_record (way : Way) (clock : Nat → Timestamp) (s : Store) (schema : SchemaInfo) :
  (way.record clock s schema).info = schema
  := by
  cases way <;> rfl

end Way

/-- The cache that a discovery leaves. -/
def boundCache (c : TypeCache) (type : MessageType) (schema : SchemaInfo) : TypeCache :=
  if type.isMissing then c else c.bind type schema

/-- A discovery takes a way to a schema: what it finds has a name, is known for the type and in the
store, and what it makes is allowed, is the schema of a registration, and was not there. -/
def Takes (o : Options) (c : TypeCache) (s : Store) (info : SchemaInfo) (type : MessageType)
    (schema : SchemaInfo) : Way → Prop
  | .found stored => ¬ schema.NameMissing ∧ knownSchema? c info type = some schema ∧
    s.latest? schema = some stored ∧ stored.revision.id ≠ ""
  | .made => o.autoRegister = true ∧ o.registrationSchema info type = .ok schema ∧
    (knownSchema? c info type = none ∨ ¬ info.NameMissing ∧ s.latest? schema = none)

variable {way : Way}

/-- The way that a discovery takes determines how it ends. -/
theorem Takes.run (clock : Nat → Timestamp) (h : Takes o c s info type schema way) :
  let out := (findOrRegister o info type c).run (.inMemory clock) .live s
  out.result = .ok (way.record clock s schema) ∧ out.cache = boundCache c type schema ∧
    out.state = way.store clock s schema
  := by
  cases way with
  | found stored =>
    obtain ⟨hname, hknown, hlatest, hid⟩ := h
    simp only [run_findOrRegister_of_stored hknown hname hlatest hid]
    exact ⟨rfl, rfl, rfl⟩
  | made =>
    obtain ⟨hauto, hschema, hmissed⟩ := h
    have hbound : boundCache c type schema = c.bind type schema := by
      simp [boundCache, (registrationSchema_cases hschema).1]
    have hmade : (registerMissed o info type c).run (.inMemory clock) .live s =
        ⟨.ok (Way.made.record clock s schema), boundCache c type schema,
          Way.made.store clock s schema, .live, [.create ⟨schema, []⟩]⟩ := by
      rw [registerMissed_of_autoRegister hauto, run_register hschema, hbound]
      rfl
    rcases hmissed with hunknown | ⟨hname, hlatest⟩
    · rw [findOrRegister_of_unknown hunknown, hmade]
      exact ⟨rfl, rfl, rfl⟩
    · obtain ⟨-, ⟨-, rfl⟩ | ⟨hmissing, -⟩⟩ := registrationSchema_cases hschema
      · have hknown : knownSchema? c schema type = some schema := by simp [knownSchema?, hname]
        simp only [run_findOrRegister_of_missed hknown hname hlatest, hmade]
        exact ⟨rfl, rfl, rfl⟩
      · contradiction

/-- What succeeds after a schema was missed makes a revision. -/
theorem takes_of_registerMissed {r : RegisteredSchema}
    (hmissed : knownSchema? c info type = none ∨ ¬ info.NameMissing ∧ s.latest? info = none)
    (hr : ((registerMissed o info type c).run (.inMemory clock) .live s).result = .ok r) :
  ∃ schema, Takes o c s info type schema .made
  := by
  cases hauto : o.autoRegister with
  | false => simp [registerMissed_of_not_autoRegister hauto, Process.run] at hr
  | true =>
    rw [registerMissed_of_autoRegister hauto] at hr
    cases hschema : o.registrationSchema info type with
    | error f => simp [register, hschema, Process.run] at hr
    | ok schema =>
      refine ⟨schema, hauto, hschema, ?_⟩
      rcases hmissed with hunknown | ⟨hname, hlatest⟩
      · exact .inl hunknown
      · obtain ⟨-, ⟨-, rfl⟩ | ⟨hmissing, -⟩⟩ := registrationSchema_cases hschema
        · exact .inr ⟨hname, hlatest⟩
        · contradiction

/-- A discovery that succeeds takes some way. -/
theorem exists_takes {r : RegisteredSchema} (hc : Coherent s c) (hs : s.Identified)
    (hr : ((findOrRegister o info type c).run (.inMemory clock) .live s).result = .ok r) :
  ∃ schema way, Takes o c s info type schema way
  := by
  cases hknown : knownSchema? c info type with
  | none =>
    rw [findOrRegister_of_unknown hknown] at hr
    obtain ⟨schema, hmade⟩ := takes_of_registerMissed (.inl hknown) hr
    exact ⟨schema, .made, hmade⟩
  | some schema =>
    by_cases hname : schema.NameMissing
    · simp [findOrRegister_of_nameMissing hknown hname, Process.run] at hr
    · cases hlatest : s.latest? schema with
      | some stored =>
        exact ⟨schema, .found stored, hname, hknown, hlatest, hs schema stored hlatest⟩
      | none =>
        -- only a schema that is named can be known and not be there
        have hnamed : ¬ info.NameMissing := by
          intro hmissing
          have hstored := isSome_latest?_known hc hmissing hknown
          simp [hlatest] at hstored
        obtain rfl : info = schema := by simpa [knownSchema?, hnamed] using hknown
        rw [run_findOrRegister_of_missed hknown hname hlatest, Outcome.result_after] at hr
        obtain ⟨schema', hmade⟩ := takes_of_registerMissed (.inr ⟨hnamed, hlatest⟩) hr
        exact ⟨schema', .made, hmade⟩

/-! ### Settled calls -/

/-- A call that finds a schema and changes nothing. -/
structure Settled (info : SchemaInfo) (type : MessageType) (c : TypeCache) (s : Store)
    (schema : SchemaInfo) (stored : StoredSchema) : Prop where
  known : knownSchema? c info type = some schema
  named : ¬ schema.NameMissing
  latest : s.latest? schema = some stored
  identified : stored.revision.id ≠ ""
  bound : c.bind type schema = c

theorem Settled.run (h : Settled info type c s schema stored) (htype : type.isMissing = false) :
  (findOrRegister o info type c).run (.inMemory clock) .live s =
    ⟨.ok (stored.record schema), c, s, .live, [.lookup schema]⟩
  := by
  simp [run_findOrRegister_of_stored h.known h.named h.latest h.identified, htype, h.bound]

/-- A discovery is settled once it took its way. -/
theorem Takes.settled (clock : Nat → Timestamp) (h : Takes o c s info type schema way)
    (hc : c.Inverse) (htype : ¬ Text.Blank type.name) :
  ∃ stored, way.record clock s schema = stored.record schema ∧
    Settled info type (boundCache c type schema) (way.store clock s schema) schema stored
  := by
  have hbound : boundCache c type schema = c.bind type schema := by
    simp [boundCache, MessageType.isMissing_of_not_blank htype]
  rw [hbound]
  have hagain := TypeCache.bind_bind_self c type schema
  cases way with
  | found stored =>
    obtain ⟨hname, hknown, hlatest, hid⟩ := h
    exact ⟨stored, rfl, knownSchema?_bind_known hc hknown, hname, hlatest, hid, hagain⟩
  | made =>
    obtain ⟨-, hschema, hmissed⟩ := h
    have hfree : info.NameMissing → c.subject? type info.format = none := by
      intro hname
      rcases hmissed with hunknown | ⟨hnamed, -⟩
      · apply (knownSchema?_eq_none_iff.1 hunknown).2
      · contradiction
    refine ⟨⟨s.nextRevision (clock s.creates) ⟨schema, []⟩, []⟩, rfl, ?_⟩
    constructor
    · apply knownSchema?_bind hschema hfree
    · apply not_nameMissing_of_registrationSchema hschema htype
    · apply Store.latest?_create_self
    · apply Checksum.ofFields_ne_empty
    · apply hagain

/-- A call is settled once it was successful. -/
theorem settled_findOrRegister {r : RegisteredSchema} (hc : Coherent s c) (hs : s.Identified)
    (htype : ¬ Text.Blank type.name)
    (hr : ((findOrRegister o info type c).run (.inMemory clock) .live s).result = .ok r) :
  ∃ schema stored, r = stored.record schema ∧
    Settled info type ((findOrRegister o info type c).run (.inMemory clock) .live s).cache
      ((findOrRegister o info type c).run (.inMemory clock) .live s).state schema stored
  := by
  obtain ⟨schema, way, htakes⟩ := exists_takes hc hs hr
  obtain ⟨hresult, hcache, hstate⟩ := htakes.run clock
  obtain ⟨stored, hrecord, hsettled⟩ := htakes.settled clock hc.inverse htype
  rw [hcache, hstate]
  obtain rfl : r = way.record clock s schema := Except.ok.inj (hr.symm.trans hresult)
  exact ⟨schema, stored, hrecord, hsettled⟩

end Resolution

/-! ### Calls from any state -/

open Resolution

namespace Remote.World

/-- Discovery or creation is idempotent: from any state that registries come to, a call that
returns a record returns it again when it is made again at once, by one look-up of its schema and
without any change. -/
theorem findOrRegister_again (clock : Nat → Timestamp) (settings : List Options)
    (jobs : List (Job settings.length)) (moves : List Move) (owner : Fin settings.length)
    (info : SchemaInfo) (type : MessageType) (hvisible : ¬ Text.Blank type.name) :
  let w := (start settings jobs).run (.inMemory clock) moves
  let call := findOrRegister (settings.get owner) info type
  let first := (call (w.cacheOf owner)).run (.inMemory clock) .live w.remote
  let second := (call first.cache).run (.inMemory clock) .live first.state
  ∀ r, first.result = .ok r →
    second.result = .ok r ∧ second.calls = [.lookup r.info] ∧ second.cache = first.cache ∧
      second.state = first.state
  := by
  intro w call first second r hr
  have hc := (kept_run clock settings jobs moves).caches owner
  have hs := identified_run clock settings jobs moves
  obtain ⟨schema, stored, rfl, hsettled⟩ := settled_findOrRegister hc hs hvisible hr
  have hsecond : second = ⟨.ok (stored.record schema), first.cache, first.state, .live,
      [.lookup schema]⟩ := hsettled.run (MessageType.isMissing_of_not_blank hvisible)
  simp [hsecond]

/-- One of two registries registers a type with a definition. -/
def registered : List (Job 2) :=
  [⟨⟨0, Nat.zero_lt_two⟩, .register ⟨"", .json⟩ "\x7b\x7d" ⟨"Identity", "UserRegistered"⟩⟩]

theorem registered_found_again :
  let w := (start [.default, .default] registered).run (.inMemory fun _ => .epoch) (turns 1 1)
  let call := findOrRegister .default ⟨"", .json⟩ ⟨"Identity", "UserRegistered"⟩
  let first := (call (w.cacheOf 1)).run (.inMemory fun _ => .epoch) .live w.remote
  let second := (call first.cache).run (.inMemory fun _ => .epoch) .live first.state
  ∃ r, first.result = .ok r ∧ first.calls = [.create ⟨r.info, []⟩] ∧
    second.result = .ok r ∧ second.calls = [.lookup r.info]
  := by
  intro w call first second
  obtain ⟨hresult, hcalls, -, -⟩ := findOrRegister_again (fun _ => .epoch) [.default, .default]
    registered (turns 1 1) ⟨1, by decide⟩ ⟨"", .json⟩ ⟨"Identity", "UserRegistered"⟩ (by decide) _
    rfl
  exact ⟨_, rfl, rfl, hresult, hcalls⟩

end Remote.World

end WireSchemas
