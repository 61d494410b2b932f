import Mathlib.Data.List.Forall2
import WireSchemas.Proofs.Naming.Subject
import WireSchemas.Proofs.Remote.Guarantee
import WireSchemas.Proofs.TypeCache
import WireSchemas.Resolution

/-!
# Coherence of caches and store

A cache is coherent with a store when its two directions are inverse and it binds nothing but
schemas that the store has.  Every operation of the resolution keeps this at each of its stops,
whatever happens to the cache and to the store meanwhile, because a schema is bound only after the
store has answered and a store forgets nothing.  It is one of the invariants that only bindings of
such schemas have to keep, `Invariant`, and so is that a schema bound to a type with a visible name
has a name.  Beside it stand the laws on what the operations call for and on the records they
return.
-/

namespace WireSchemas

open Remote

/-! ### Answers of a store -/

namespace Remote

/-- An answer that is no failure is that of the call as it was carried out. -/
theorem Turn.ok {σ β : Type} {client : Client σ} {carryOut : σ → Except Failure β × σ}
    {exchange : Except Failure β → Exchange} {s t : σ} {xs ys : List Exchange} {b : β}
    (turn : Turn client carryOut exchange s xs (.ok b) t ys) :
  ∃ s₁, (carryOut s₁).1 = .ok b ∧ client.Leads (carryOut s₁).2 t ∧ ys = xs ++ [exchange (.ok b)]
  := by
  generalize ha : Except.ok b = a at turn
  cases turn with
  | heard before after => exact ⟨_, rfl, after, rfl⟩
  | unheard before after => cases ha
  | dropped before => cases ha

/-- A call adds one exchange at most. -/
theorem Turn.exchanges {σ β : Type} {client : Client σ} {carryOut : σ → Except Failure β × σ}
    {exchange : Except Failure β → Exchange} {s t : σ} {xs ys : List Exchange}
    {a : Except Failure β} (turn : Turn client carryOut exchange s xs a t ys) :
  ys = xs ∨ ∃ b, ys = xs ++ [exchange b]
  := by
  cases turn with
  | heard before after => exact .inr ⟨_, rfl⟩
  | unheard before after => exact .inr ⟨_, rfl⟩
  | dropped before => exact .inl rfl

variable {clock : Nat → Timestamp} {s t : Store} {xs ys : List Exchange}

/-- A schema that was created is in the store. -/
theorem Turn.ok_create {request : CreateRequest} {revision : Revision}
    (turn : Turn (.inMemory clock) ((Client.inMemory clock).create request) (.created request) s xs
      (.ok revision) t ys) :
  ys = xs ++ [.created request (.ok revision)] ∧ (t.latest? request.schema).isSome
  := by
  obtain ⟨s₁, hanswer, hl, rfl⟩ := turn.ok
  refine ⟨rfl, Client.isSome_latest?_of_leads hl ?_⟩
  simp [Store.latest?_create]

/-- A schema that was found is in the store. -/
theorem Turn.ok_lookup {schema : SchemaInfo} {found : Option StoredSchema}
    (turn : Turn (.inMemory clock) ((Client.inMemory clock).lookup schema) (.found schema) s xs
      (.ok found) t ys) :
  ys = xs ++ [.found schema (.ok found)] ∧ (found.isSome → (t.latest? schema).isSome)
  := by
  obtain ⟨s₁, hanswer, hl, rfl⟩ := turn.ok
  refine ⟨rfl, fun hfound => Client.isSome_latest?_of_leads hl ?_⟩
  obtain rfl : s₁.latest? schema = found := by simpa using hanswer
  apply hfound

/-! ### Exchanges of a task -/

/-- Whether an exchange is that of a request to create or update a schema. -/
def Exchange.isCreate : Exchange → Bool
  | created _ _ => true
  | found _ _ => false

/-- No schema is created. -/
def LookupsOnly (xs : List Exchange) : Prop :=
  ∀ x ∈ xs, x.isCreate = false

/-- No schema is created but by the last exchange. -/
def CreatesLast (xs : List Exchange) : Prop :=
  LookupsOnly xs.dropLast

theorem lookupsOnly_nil :
  LookupsOnly []
  := by
  simp [LookupsOnly]

theorem LookupsOnly.createsLast (h : LookupsOnly xs) :
  CreatesLast xs
  := fun x hx => h x ((List.dropLast_sublist xs).subset hx)

theorem LookupsOnly.append_found (h : LookupsOnly xs) (schema : SchemaInfo)
    (answer : Except Failure (Option StoredSchema)) :
  LookupsOnly (xs ++ [.found schema answer])
  := by
  intro x hx
  rcases List.mem_append.1 hx with hx | hx
  · apply h x hx
  · obtain rfl := List.mem_singleton.1 hx
    rfl

theorem LookupsOnly.createsLast_append (h : LookupsOnly xs) (x : Exchange) :
  CreatesLast (xs ++ [x])
  := by
  simpa [CreatesLast] using h

end Remote

/-! ### Coherence -/

/-- A cache whose two directions are inverse and that binds schemas of the store to types that are
not missing. -/
structure Coherent (s : Store) (c : TypeCache) : Prop where
  inverse : c.Inverse
  bound : ∀ schema type, c.type? schema = some type →
    type.isMissing = false ∧ (s.latest? schema).isSome

namespace Coherent

variable {clock : Nat → Timestamp} {s t : Store} {c : TypeCache}

theorem empty (s : Store) :
  Coherent s .empty
  := ⟨TypeCache.inverse_empty, fun _ _ h => by cases h⟩

theorem of_leads (h : Coherent s c) (hl : (Client.inMemory clock).Leads s t) :
  Coherent t c
  := by
  refine ⟨h.inverse, fun schema type hb => ?_⟩
  obtain ⟨htype, hs⟩ := h.bound schema type hb
  exact ⟨htype, Client.isSome_latest?_of_leads hl hs⟩

theorem bind (h : Coherent s c) {type : MessageType} {schema : SchemaInfo}
    (htype : type.isMissing = false) (hs : (s.latest? schema).isSome) :
  Coherent s (c.bind type schema)
  := by
  refine ⟨h.inverse.bind type schema, fun schema' type' hb => ?_⟩
  rw [TypeCache.type?_bind] at hb
  split at hb
  · next heq =>
    obtain rfl := Option.some.inj hb
    exact ⟨htype, heq ▸ hs⟩
  · apply h.bound schema' type' hb

/-- The subject that a type has in the cache is in the store. -/
theorem isSome_latest? (h : Coherent s c) {type : MessageType} {format : DataFormat}
    {subject : String} (hsubject : c.subject? type format = some subject) :
  (s.latest? ⟨subject, format⟩).isSome
  := (h.bound _ _ ((h.inverse _ _).2 (TypeCache.subject?_eq_some hsubject))).2

end Coherent

/-! ### Invariants of bindings -/

/-- A schema that a type may be bound to at a store: the store has it, and it has a name unless the
name of the type itself is blank. -/
structure Bindable (s : Store) (type : MessageType) (schema : SchemaInfo) : Prop where
  notMissing : type.isMissing = false
  stored : (s.latest? schema).isSome
  named : ¬ Text.Blank type.name → ¬ schema.NameMissing

/-- A property of a store and a cache that the empty cache has, that lasts when the store goes on,
and that bindings keep. -/
structure Invariant (clock : Nat → Timestamp) (I : Store → TypeCache → Prop) : Prop where
  empty : ∀ s, I s .empty
  leads : ∀ s t c, (Client.inMemory clock).Leads s t → I s c → I t c
  bind : ∀ s c type schema, I s c → Bindable s type schema → I s (c.bind type schema)

theorem Coherent.invariant (clock : Nat → Timestamp) :
  Invariant clock Coherent
  := ⟨.empty, fun _ _ _ hl h => h.of_leads hl, fun _ _ _ _ h hb => h.bind hb.notMissing hb.stored⟩

/-- Every binding of a cache is of a schema that its type may be bound to. -/
def Founded (s : Store) (c : TypeCache) : Prop :=
  ∀ schema type, c.type? schema = some type → Bindable s type schema

theorem Founded.invariant (clock : Nat → Timestamp) :
  Invariant clock Founded
  := by
  constructor
  · intro s schema type h
    cases h
  · intro s t c hl h schema type hb
    obtain ⟨htype, hs, hname⟩ := h schema type hb
    exact ⟨htype, Client.isSome_latest?_of_leads hl hs, hname⟩
  · intro s c type schema h hbindable schema' type' hb
    rw [TypeCache.type?_bind] at hb
    split at hb
    · next heq =>
      obtain rfl := Option.some.inj hb
      rw [← heq]
      apply hbindable
    · apply h schema' type' hb

/-! ### Laws on records -/

namespace Resolution

/-- The record of what a look-up found, or that of a schema not found. -/
def foundRecord (info : SchemaInfo) : Option StoredSchema → RegisteredSchema
  | none => .none
  | some stored => stored.record info

/-- A record is what a look-up found. -/
def Found (x : Exchange) (r : RegisteredSchema) : Prop :=
  ∃ info found, x = .found info (.ok found) ∧ r = foundRecord info found

/-- A record is of the revision that the last of the exchanges made. -/
def Made (xs : List Exchange) (r : RegisteredSchema) : Prop :=
  ∃ ys definition bytes revision, xs = ys ++ [.created ⟨r.info, bytes⟩ (.ok revision)] ∧
    r = newRecord r.info definition revision

/-- A record is of a schema that the only exchange found, or of the revision that the last one
made. -/
def FoundOrMade (xs : List Exchange) (r : RegisteredSchema) : Prop :=
  (∃ stored, xs = [.found r.info (.ok (some stored))] ∧ r = stored.record r.info) ∨ Made xs r

/-- What a successful look-up after some exchanges gives. -/
def FindsAfter (before : List Exchange) (info : SchemaInfo) (s : Store) (xs : List Exchange)
    (r : RegisteredSchema) : Prop :=
  ∃ found, xs = before ++ [.found info (.ok found)] ∧ r = foundRecord info found ∧
    (found.isSome → (s.latest? info).isSome)

/-- What a successful registration after some exchanges gives. -/
def RegistersAfter (before : List Exchange) (definition : String) (xs : List Exchange)
    (r : RegisteredSchema) : Prop :=
  ∃ revision, xs = before ++ [.created ⟨r.info, definitionBytes definition⟩ (.ok revision)] ∧
    r = newRecord r.info definition revision

theorem RegistersAfter.made {before xs : List Exchange} {definition : String}
    {r : RegisteredSchema} (h : RegistersAfter before definition xs r) :
  Made xs r
  := by
  obtain ⟨revision, hxs, hr⟩ := h
  exact ⟨before, definition, _, revision, hxs, hr⟩

/-- What is known of a schema info and a type: nothing at all, or what a look-up gives. -/
def FindsKnown (s : Store) (xs : List Exchange) (r : RegisteredSchema) : Prop :=
  xs = [] ∧ r = .none ∨ ∃ info, FindsAfter [] info s xs r

/-! ### Operations keep invariants -/

variable {clock : Nat → Timestamp} {I : Store → TypeCache → Prop} {s : Store} {c : TypeCache}
  {xs : List Exchange}

theorem keeps_find (info : SchemaInfo) (hc : I s c) (hxs : LookupsOnly xs) :
  (find info c).Keeps (.inMemory clock) I
    (.onSuccess LookupsOnly fun t ys r => ¬ info.NameMissing ∧ FindsAfter xs info t ys r) s xs
  := by
  simp only [find]
  split
  · exact ⟨hc, Law.onSuccess_error hxs⟩
  · next hname =>
    refine ⟨hc, Law.onSuccess_none hxs, ?_⟩
    intro a t ys turn c' hc'
    refine ⟨hc', ?_⟩
    cases a with
    | error f =>
      apply Law.onSuccess_error
      rcases turn.exchanges with rfl | ⟨b, rfl⟩
      · apply hxs
      · apply hxs.append_found
    | ok found =>
      obtain ⟨rfl, hfound⟩ := turn.ok_lookup
      apply Law.onSuccess_ok.2
      refine ⟨hxs.append_found info _, hname, found, rfl, ?_, hfound⟩
      cases found <;> rfl

/-- A record that is found for an info and a type has a name. -/
theorem keeps_findKnown (info : SchemaInfo) (type : MessageType) (hc : I s c) :
  (findKnown info type c).Keeps (.inMemory clock) I
    (.onSuccess LookupsOnly fun t ys r => FindsKnown t ys r ∧ (r ≠ .none → ¬ r.info.NameMissing))
    s []
  := by
  have hfind : ∀ info, (find info c).Keeps (.inMemory clock) I
      (.onSuccess LookupsOnly fun t ys r => FindsKnown t ys r ∧ (r ≠ .none → ¬ r.info.NameMissing))
      s [] := by
    intro info
    apply (keeps_find info hc lookupsOnly_nil).imp
    intro t ys r hr
    apply Law.onSuccess_imp hr (fun h => h)
    rintro a ⟨hname, ha⟩
    refine ⟨.inr ⟨info, ha⟩, ?_⟩
    obtain ⟨found, -, rfl, -⟩ := ha
    cases found with
    | none => simp [foundRecord]
    | some stored => exact fun _ => hname
  simp only [findKnown]
  split
  · split
    · apply hfind
    · exact ⟨hc, Law.onSuccess_ok.2 ⟨lookupsOnly_nil, .inl ⟨rfl, rfl⟩, by simp⟩⟩
  · apply hfind

/-- The schema of a registration is the named one, or that of the derived subject. -/
theorem registrationSchema_cases {o : Options} {info schema : SchemaInfo} {type : MessageType}
    (h : o.registrationSchema info type = .ok schema) :
  type.isMissing = false ∧
    (¬ info.NameMissing ∧ schema = info ∨
      info.NameMissing ∧ ∃ subject, o.subjectRule.subject type .none = .ok subject ∧
        schema = ⟨subject, info.format⟩)
  := by
  simp only [Options.registrationSchema] at h
  split at h
  · cases h
  · next htype =>
    refine ⟨by simpa using htype, ?_⟩
    split at h
    · next hname =>
      right
      refine ⟨hname, ?_⟩
      simp only [Options.schemaInfo] at h
      cases hsubject : o.subjectRule.subject type .none with
      | error f => simp [hsubject, Except.map] at h
      | ok subject =>
        rw [hsubject] at h
        exact ⟨subject, rfl, (Except.ok.inj h).symm⟩
    · next hname =>
      left
      exact ⟨hname, (Except.ok.inj h).symm⟩

/-- The schema of a registration has a name if the type has one that is not blank. -/
theorem not_nameMissing_of_registrationSchema {o : Options} {info schema : SchemaInfo}
    {type : MessageType} (h : o.registrationSchema info type = .ok schema)
    (htype : ¬ Text.Blank type.name) :
  ¬ schema.NameMissing
  := by
  obtain ⟨-, ⟨hname, rfl⟩ | ⟨-, subject, hsubject, rfl⟩⟩ := registrationSchema_cases h
  · apply hname
  · apply Naming.SubjectRule.not_blank_subject hsubject htype

theorem keeps_register (hI : Invariant clock I) (o : Options) (info : SchemaInfo)
    (definition : String) (type : MessageType) (hc : I s c) (hxs : LookupsOnly xs) :
  (register o info definition type c).Keeps (.inMemory clock) I
    (.onSuccess CreatesLast fun _ => RegistersAfter xs definition) s xs
  := by
  simp only [register]
  split
  · exact ⟨hc, Law.onSuccess_error hxs.createsLast⟩
  · next schema hschema =>
    refine ⟨hc, Law.onSuccess_none hxs.createsLast, ?_⟩
    intro a t ys turn c' hc'
    cases a with
    | error f =>
      refine ⟨hc', Law.onSuccess_error ?_⟩
      rcases turn.exchanges with rfl | ⟨b, rfl⟩
      · apply hxs.createsLast
      · apply hxs.createsLast_append
    | ok revision =>
      obtain ⟨rfl, hs⟩ := turn.ok_create
      have htype := (registrationSchema_cases hschema).1
      refine ⟨hI.bind _ _ _ _ hc' ⟨htype, hs, not_nameMissing_of_registrationSchema hschema⟩, ?_⟩
      apply Law.onSuccess_ok.2
      exact ⟨hxs.createsLast_append _, revision, rfl, rfl⟩

theorem keeps_findOrRegister (hI : Invariant clock I) (o : Options) (info : SchemaInfo)
    (type : MessageType) (hc : I s c) :
  (findOrRegister o info type c).Keeps (.inMemory clock) I
    (.onSuccess CreatesLast fun _ => FoundOrMade) s []
  := by
  apply Operation.keeps_andThen (keeps_findKnown info type hc)
  · intro ys hys
    apply hys.createsLast
  rintro t c ys r hc hys ⟨hr, hname⟩
  by_cases hfound : r.isNone
  · simp only [hfound, Bool.not_true, Bool.false_eq_true, if_false]
    split
    · exact ⟨hc, Law.onSuccess_error hys.createsLast⟩
    · apply (keeps_register hI o info "" type hc hys).imp
      intro t ys r hr
      apply Law.onSuccess_imp hr (fun h => h) fun a ha => .inr ha.made
  · have hnamed : ¬ r.info.NameMissing := by
      apply hname
      simpa [RegisteredSchema.isNone] using hfound
    obtain ⟨rfl, rfl⟩ | ⟨info', found, rfl, rfl, hs⟩ := hr
    · simp [RegisteredSchema.isNone] at hfound
    · cases found with
      | none => simp [foundRecord, RegisteredSchema.isNone] at hfound
      | some stored =>
        simp only [hfound, Bool.not_false, if_true]
        constructor
        · split
          · apply hc
          · next htype =>
            apply hI.bind _ _ _ _ hc
            exact ⟨by simpa using htype, hs rfl, fun _ => hnamed⟩
        · exact Law.onSuccess_ok.2 ⟨hys.createsLast, .inl ⟨stored, rfl, rfl⟩⟩

theorem keeps_findAll (infos : List SchemaInfo) (hc : I s c) (hxs : LookupsOnly xs) :
  (findAll infos c).Keeps (.inMemory clock) I
    (.onSuccess LookupsOnly fun _ ys rs => ∃ zs, ys = xs ++ zs ∧ List.Forall₂ Found zs rs) s xs
  := by
  induction infos generalizing s c xs with
  | nil => exact ⟨hc, Law.onSuccess_ok.2 ⟨hxs, [], by simp, .nil⟩⟩
  | cons info rest ih =>
    simp only [findAll]
    apply Operation.keeps_andThen (keeps_find info hc hxs) (fun _ h => h)
    intro t c ys r hc hys hr
    obtain ⟨-, found, rfl, rfl, -⟩ := hr
    apply Operation.keeps_andThen (ih hc hys) (fun _ h => h)
    intro t c ys rs hc hys hrs
    obtain ⟨zs, rfl, hzs⟩ := hrs
    refine ⟨hc, Law.onSuccess_ok.2 ⟨hys, .found info (.ok found) :: zs, by simp, ?_⟩⟩
    apply List.Forall₂.cons ⟨info, found, rfl, rfl⟩ hzs

end Resolution

end WireSchemas
