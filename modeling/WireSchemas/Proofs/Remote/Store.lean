import Mathlib.Logic.Relation
import WireSchemas.Proofs.SortedMap
import WireSchemas.Remote.Client

/-!
# Laws of the schema store

What a request does to the look-ups and to the versions, and what remains true of a store however
many calls its client carries out: nothing is forgotten, and revisions have identifiers that are
not empty.
-/

namespace WireSchemas

/-! ### Identifiers of revisions -/

theorem Sha256.length_digest (message : Bytes) :
  (digest message).length = 32
  := rfl

theorem Text.Hex.length_encode (bytes : Bytes) :
  (encode bytes).length = 2 * bytes.length
  := by
  induction bytes with
  | nil => rfl
  | cons b rest ih =>
    simp only [encode, String.length_ofList, List.length_cons] at ih ⊢
    rw [List.flatMap_cons, List.length_append, ih]
    simp only [encodeByte, List.length_cons, List.length_nil]
    omega

theorem Checksum.length_ofFields (fields : List String) :
  (ofFields fields).length = 64
  := by
  rw [ofFields, ofBytes, Text.Hex.length_encode, Sha256.length_digest]

theorem Checksum.ofFields_ne_empty (fields : List String) :
  ofFields fields ≠ ""
  := by
  intro h
  have hlen := length_ofFields fields
  rw [h] at hlen
  contradiction

namespace Remote

namespace Store

@[simp]
theorem latest?_empty (schema : SchemaInfo) :
  empty.latest? schema = none
  := rfl

theorem latest?_create (s : Store) (now : Timestamp) (request : CreateRequest)
    (schema : SchemaInfo) :
  (s.create now request).latest? schema =
    if request.schema = schema then some ⟨s.nextRevision now request, request.definition⟩
    else s.latest? schema
  := by
  by_cases h : request.schema = schema
  · simp [latest?, create, h]
  · simp [latest?, create, h, SortedMap.get?_insert_of_ne]

theorem latest?_create_self (s : Store) (now : Timestamp) (request : CreateRequest) :
  (s.create now request).latest? request.schema =
    some ⟨s.nextRevision now request, request.definition⟩
  := by
  rw [latest?_create, if_pos rfl]

@[simp]
theorem version_nextRevision (s : Store) (now : Timestamp) (request : CreateRequest) :
  (s.nextRevision now request).version = s.nextVersion request.schema
  := rfl

theorem nextVersion_of_latest?_eq_none {s : Store} {schema : SchemaInfo}
    (h : s.latest? schema = none) :
  s.nextVersion schema = 1
  := by
  simp [nextVersion, h]

theorem nextVersion_of_latest?_eq_some {s : Store} {schema : SchemaInfo} {stored : StoredSchema}
    (h : s.latest? schema = some stored) :
  s.nextVersion schema = stored.revision.version + 1
  := by
  simp [nextVersion, h]

/-! ### Identified revisions -/

/-- Every revision has an identifier. -/
def Identified (s : Store) : Prop :=
  ∀ schema stored, s.latest? schema = some stored → stored.revision.id ≠ ""

theorem identified_empty :
  empty.Identified
  := by
  intro schema stored h
  simp at h

theorem Identified.create {s : Store} (h : s.Identified) (now : Timestamp)
    (request : CreateRequest) :
  (s.create now request).Identified
  := by
  intro schema stored hl
  rw [latest?_create] at hl
  split at hl
  · obtain rfl := Option.some.inj hl
    apply Checksum.ofFields_ne_empty
  · apply h schema stored hl

end Store

/-! ### The states a client comes to -/

namespace Client

variable {σ : Type}

/-- The states that a client comes to by carrying out calls. -/
def Leads (client : Client σ) : σ → σ → Prop :=
  Relation.ReflTransGen fun s s' =>
    (∃ request, s' = (client.create request s).2) ∨ ∃ schema, s' = (client.lookup schema s).2

theorem leads_create (client : Client σ) (request : CreateRequest) (s : σ) :
  client.Leads s (client.create request s).2
  := Relation.ReflTransGen.single (.inl ⟨request, rfl⟩)

theorem leads_lookup (client : Client σ) (schema : SchemaInfo) (s : σ) :
  client.Leads s (client.lookup schema s).2
  := Relation.ReflTransGen.single (.inr ⟨schema, rfl⟩)

/-- What single calls keep, all calls keep. -/
theorem Leads.keeps {client : Client σ} {P : σ → Prop} {s s' : σ} (hl : client.Leads s s')
    (hcreate : ∀ s request, P s → P (client.create request s).2)
    (hlookup : ∀ s schema, P s → P (client.lookup schema s).2) (h : P s) :
  P s'
  := by
  induction hl with
  | refl => apply h
  | tail _ hstep ih =>
    rcases hstep with ⟨request, rfl⟩ | ⟨schema, rfl⟩
    · apply hcreate _ request ih
    · apply hlookup _ schema ih

variable (clock : Nat → Timestamp)

@[simp]
theorem inMemory_create (request : CreateRequest) (s : Store) :
  (inMemory clock).create request s =
    (.ok (s.nextRevision (clock s.creates) request), s.create (clock s.creates) request)
  := rfl

@[simp]
theorem inMemory_lookup (schema : SchemaInfo) (s : Store) :
  (inMemory clock).lookup schema s = (.ok (s.latest? schema), s)
  := rfl

variable {clock}

theorem identified_of_leads {s s' : Store} (hl : (inMemory clock).Leads s s')
    (h : s.Identified) :
  s'.Identified
  := hl.keeps (fun s request h => h.create (clock s.creates) request) (fun _ _ h => h) h

theorem isSome_latest?_create (s : Store) (request : CreateRequest) {schema : SchemaInfo}
    (h : (s.latest? schema).isSome) :
  (((inMemory clock).create request s).2.latest? schema).isSome
  := by
  simp only [inMemory_create, Store.latest?_create]
  split
  · rfl
  · apply h

/-- A store forgets no schema. -/
theorem isSome_latest?_of_leads {s s' : Store} {schema : SchemaInfo}
    (hl : (inMemory clock).Leads s s') (h : (s.latest? schema).isSome) :
  (s'.latest? schema).isSome
  := by
  refine hl.keeps (P := fun s => (s.latest? schema).isSome) ?_ (fun _ _ h => h) h
  intro s request h
  apply isSome_latest?_create s request h

end Client

end Remote

end WireSchemas
