import WireSchemas.Proofs.Registry.Reachable
import WireSchemas.Proofs.Remote.Revisions
import WireSchemas.Proofs.Resolution.Outcome
import WireSchemas.Proofs.Text.Lossy

/-!
# Registrations and look-ups

A registration and a look-up after it give records of one revision, which agree but for the
definition.  The remote registry is sent no bytes for a blank definition, so a look-up then gives
the empty one, while the record of the registration has the definition as it was given.
-/

namespace WireSchemas

open Remote Resolution

/-! ### Definitions -/

namespace Resolution

/-- The definition that the remote registry has of one that it was sent. -/
def storedDefinition (definition : String) : String :=
  if Text.Blank definition then "" else definition

theorem decodeLossy_definitionBytes (definition : String) :
  Text.Utf8.decodeLossy (definitionBytes definition) = storedDefinition definition
  := by
  rw [definitionBytes, storedDefinition]
  split
  · rfl
  · apply Text.Utf8.decodeLossy_encode

/-- Only blank texts with something in them are stored as another text. -/
theorem storedDefinition_eq_self_iff {definition : String} :
  storedDefinition definition = definition ↔ (Text.Blank definition → definition = "")
  := by
  rw [storedDefinition]
  split
  · next hblank => simp [hblank, eq_comm]
  · next hblank => simp [hblank]

/-- The record of what a registration left in the store. -/
theorem record_registered (schema : SchemaInfo) (definition : String) (revision : Revision) :
  StoredSchema.record ⟨revision, definitionBytes definition⟩ schema =
    { newRecord schema definition revision with definition := storedDefinition definition }
  := by
  simp only [StoredSchema.record, decodeLossy_definitionBytes, newRecord]

end Resolution

/-! ### Exchanges of registrations -/

/-- A creation in a history is an exchange of its task. -/
theorem Remote.mem_exchangesOf_of_creation {schema : SchemaInfo} {h : List Event}
    {creation : Creation} (hmem : creation ∈ creationsOf schema h) :
  .created ⟨schema, creation.definition⟩ creation.answer ∈ exchangesOf creation.task h
  := by
  obtain ⟨⟨i, x⟩, he, hcreation⟩ := List.mem_filterMap.1 hmem
  cases x with
  | found schema' answer => cases hcreation
  | created request answer =>
    simp only [Event.creationOf?, Option.ite_none_right_eq_some, Option.some.injEq] at hcreation
    obtain ⟨rfl, rfl⟩ := hcreation
    apply mem_exchangesOf.2 he

/-- The task that was the last to create a schema. -/
def Remote.lastCreator? (schema : SchemaInfo) (h : List Event) : Option Nat :=
  (creationsOf schema h).getLast?.map Creation.task

/-- A registration accounts for its record by the creation of its schema alone, with the bytes of
its definition. -/
def registrationLaw {registries : Nat} (jobs : List (Job registries)) (i : Nat) :
    Law Store Response :=
  fun _ xs result => ∀ owner info definition type,
    jobs[i]? = some ⟨owner, .register info definition type⟩ →
      ∀ r, result = some (.record (.ok r)) → RegistersAfter [] definition xs r

namespace Remote.World

variable {clock : Nat → Timestamp} {settings : List Options} {jobs : List (Job settings.length)}
  {moves : List Move}

theorem lasting_registrationLaw (client : Client Store) (i : Nat) :
  (registrationLaw jobs i).Lasting client
  := ⟨fun _ _ _ _ _ h => h, fun _ _ _ _ => by simp [registrationLaw]⟩

theorem keeps_registrationLaw {i : Nat} {job : Job settings.length} (hjob : jobs[i]? = some job)
    {s : Store} {c : TypeCache} (hc : Coherent s c) :
  (job.request.operation (settings.get job.owner) c).Keeps (.inMemory clock) Coherent
    (registrationLaw jobs i) s []
  := by
  have hI := Coherent.invariant clock
  obtain ⟨owner, request⟩ := job
  cases request with
  | register info definition type =>
    apply Operation.keeps_map (keeps_register hI _ info definition type hc lookupsOnly_nil)
    intro t ys result hresult owner' info' definition' type' hjob' r hr
    obtain ⟨-, -, rfl, -⟩ : owner = owner' ∧ info = info' ∧ definition = definition' ∧
        type = type' := by
      simpa [hjob] using hjob'
    obtain ⟨_, rfl, ⟨⟩⟩ := Option.map_eq_some_iff.1 hr
    apply (Law.onSuccess_ok.1 hresult).2
  | _ =>
    -- the law asks nothing of other requests
    apply (Request.keeps_operation hI _ _ hc).imp
    intro t ys result _ owner' info' definition' type' hjob'
    simp [hjob] at hjob'

/-- The only exchange of a registration that succeeded is the creation of its schema. -/
theorem exchangesOf_registration {i : Nat} {owner : Fin settings.length} {info : SchemaInfo}
    {definition : String} {type : MessageType} {r : RegisteredSchema}
    (hjob : jobs[i]? = some ⟨owner, .register info definition type⟩)
    (hresult : ((start settings jobs).run (.inMemory clock) moves).result? i =
      some (.record (.ok r))) :
  RegistersAfter [] definition
    (exchangesOf i ((start settings jobs).history (.inMemory clock) moves)) r
  := by
  have hkept : ((start settings jobs).run (.inMemory clock) moves).Kept (.inMemory clock) Coherent
      (registrationLaw jobs) ((start settings jobs).history (.inMemory clock) moves) :=
    kept_run_of (Coherent.invariant clock) (lasting_registrationLaw _)
      (fun _ _ hjob _ _ => keeps_registrationLaw hjob) moves
  obtain ⟨task, htask, hr⟩ := Option.bind_eq_some_iff.1 hresult
  apply (hkept.tasks i task htask).law owner info definition type hjob r hr

/-- The store has what a registration left, until the schema is created again. -/
theorem latest?_registration {i : Nat} {owner : Fin settings.length} {info : SchemaInfo}
    {definition : String} {type : MessageType} {r : RegisteredSchema}
    (hjob : jobs[i]? = some ⟨owner, .register info definition type⟩)
    (hresult : ((start settings jobs).run (.inMemory clock) moves).result? i =
      some (.record (.ok r)))
    (hlast : lastCreator? r.info ((start settings jobs).history (.inMemory clock) moves) = some i) :
  ∃ revision, r = newRecord r.info definition revision ∧
    ((start settings jobs).run (.inMemory clock) moves).remote.latest? r.info =
      some ⟨revision, definitionBytes definition⟩
  := by
  obtain ⟨revision, hxs, hr⟩ := exchangesOf_registration hjob hresult
  obtain ⟨creation, hcreation, rfl⟩ := Option.map_eq_some_iff.1 hlast
  have hmem := mem_exchangesOf_of_creation (List.mem_of_getLast? hcreation)
  obtain ⟨hdefinition, hanswer⟩ : creation.definition = definitionBytes definition ∧
      creation.answer = .ok revision := by
    simpa [hxs] using hmem
  use revision, hr
  rw [((numberedAt_nil rfl r.info).run moves).latest]
  simp [newest, hcreation, Creation.stored?, hanswer, hdefinition]

/-- A record that a registration returned and the one that a look-up gives, before the schema is
created by anyone else, agree in all fields but the definition.  The look-up has the definition
that was stored, the registration the one that was given; these are the same except for blank
definitions with something in them. -/
theorem registration_found (clock : Nat → Timestamp) (settings : List Options)
    (jobs : List (Job settings.length)) (moves : List Move) {i : Nat}
    {owner : Fin settings.length} {info : SchemaInfo} {definition : String} {type : MessageType}
    {r : RegisteredSchema} (hjob : jobs[i]? = some ⟨owner, .register info definition type⟩) :
  let w := (start settings jobs).run (.inMemory clock) moves
  let h := (start settings jobs).history (.inMemory clock) moves
  w.result? i = some (.record (.ok r)) → ¬ r.info.NameMissing → lastCreator? r.info h = some i →
    ∃ found,
      (∀ c, (find r.info c).run (.inMemory clock) .live w.remote =
        ⟨.ok found, c, w.remote, .live, [.lookup r.info]⟩) ∧
      found = { r with definition := storedDefinition definition } ∧
      r.definition = definition ∧
      (found = r ↔ (Text.Blank definition → definition = ""))
  := by
  intro w h hresult hname hlast
  obtain ⟨revision, hr, hlatest⟩ := latest?_registration hjob hresult hlast
  have hdefinition : r.definition = definition := congrArg RegisteredSchema.definition hr
  refine ⟨{ r with definition := storedDefinition definition }, ?_, rfl, hdefinition, ?_⟩
  · intro c
    rw [run_find hname, hlatest, foundRecord, record_registered, ← hr]
  · rw [← storedDefinition_eq_self_iff]
    obtain ⟨subject, format, id, _, version, createdAt⟩ := r
    obtain rfl := hdefinition
    simp

/-- Two registries that are asked to register a schema each, one with a definition and one with a
blank one. -/
def registrations : List (Job 2) :=
  [⟨⟨0, Nat.zero_lt_two⟩, .register ⟨"users", .json⟩ "größe" ⟨"Identity", "UserRegistered"⟩⟩,
    ⟨⟨1, Nat.one_lt_two⟩, .register ⟨"users", .avro⟩ " " ⟨"Identity", "UserRegistered"⟩⟩]

/-- The record that the first of them gets. -/
def usersRecord : RegisteredSchema :=
  let schema : SchemaInfo := ⟨"users", .json⟩
  newRecord schema "größe" (Store.empty.nextRevision .epoch ⟨schema, definitionBytes "größe"⟩)

/-- The record that the second of them gets. -/
def blankRecord : RegisteredSchema :=
  let schema : SchemaInfo := ⟨"users", .avro⟩
  newRecord schema " " (Store.empty.nextRevision .epoch ⟨schema, definitionBytes " "⟩)

theorem users_registration_found :
  let w := (start [.default, .default] registrations).run (.inMemory fun _ => .epoch) (turns 2 1)
  w.result? 0 = some (.record (.ok usersRecord)) ∧
    ∀ c, ((find usersRecord.info c).run (.inMemory fun _ => .epoch) .live w.remote).result =
      .ok usersRecord
  := by
  intro w
  have hresult : w.result? 0 = some (.record (.ok usersRecord)) := rfl
  obtain ⟨found, hfind, -, -, hsame⟩ := registration_found (fun _ => .epoch) [.default, .default]
    registrations (turns 2 1) rfl hresult (by decide) (by decide +kernel)
  refine ⟨hresult, fun c => ?_⟩
  rw [hfind c, hsame.2 (by decide)]

/-- A definition of one blank is in the record of the registration and not in that of the
look-up. -/
theorem not_registration_found_as_given :
  ¬ ∀ (clock : Nat → Timestamp) (settings : List Options) (jobs : List (Job settings.length))
      (moves : List Move) (i : Nat) (owner : Fin settings.length) (info : SchemaInfo)
      (definition : String) (type : MessageType) (r : RegisteredSchema),
    let w := (start settings jobs).run (.inMemory clock) moves
    let h := (start settings jobs).history (.inMemory clock) moves
    jobs[i]? = some ⟨owner, .register info definition type⟩ →
      w.result? i = some (.record (.ok r)) → ¬ r.info.NameMissing →
      lastCreator? r.info h = some i →
        ∀ c, ((find r.info c).run (.inMemory clock) .live w.remote).result = .ok r
  := by
  intro h
  have hfound := h (fun _ => .epoch) [.default, .default] registrations (turns 2 1) 1 _ _ _ _
    blankRecord rfl rfl (by decide) (by decide +kernel) .empty
  have hdefinition := congrArg (·.toOption.map RegisteredSchema.definition) hfound
  revert hdefinition
  decide +kernel

end Remote.World

end WireSchemas
