import Mathlib.Algebra.Group.Nat.Defs
import Mathlib.Tactic.ByContra
import WireSchemas.Proofs.Remote.Guarantee

/-!
# The revisions of a schema

The creations of a schema in a history are numbered: each was answered by a revision whose version
is its number in 32 bits, and the store has the last one.  As long as there are less than `2 ^ 31` of
them the versions are the numbers themselves.  What is read of a schema is read at a move, and is
what the store has there.
-/

namespace WireSchemas.Remote

/-! ### Creations -/

/-- A request to create or update some schema that was carried out. -/
structure Creation where
  /-- The position of the task. -/
  task : Nat
  definition : Bytes
  answer : Except Failure Revision

/-- What a creation left in the store, if it did not fail. -/
def Creation.stored? (c : Creation) : Option StoredSchema :=
  match c.answer with
  | .ok revision => some ⟨revision, c.definition⟩
  | .error _ => none

/-- The creation of a schema that an event is, if any. -/
def Event.creationOf? (schema : SchemaInfo) (e : Event) : Option Creation :=
  match e.exchange with
  | .created request answer =>
    if request.schema = schema then some ⟨e.task, request.definition, answer⟩ else none
  | .found _ _ => none

/-- The creations of a schema, in order. -/
def creationsOf (schema : SchemaInfo) (history : List Event) : List Creation :=
  history.filterMap (Event.creationOf? schema)

theorem creationsOf_append (schema : SchemaInfo) (h h' : List Event) :
  creationsOf schema (h ++ h') = creationsOf schema h ++ creationsOf schema h'
  := List.filterMap_append

theorem creationsOf_created (i : Nat) (request : CreateRequest)
    (answer : Except Failure Revision) :
  creationsOf request.schema [⟨i, .created request answer⟩] = [⟨i, request.definition, answer⟩]
  := by
  simp [creationsOf, Event.creationOf?]

/-- What the last of some creations left in the store. -/
def newest (cs : List Creation) : Option StoredSchema :=
  cs.getLast?.bind Creation.stored?

@[simp]
theorem newest_append (cs : List Creation) (c : Creation) :
  newest (cs ++ [c]) = c.stored?
  := by
  simp [newest]

/-- The version that has a number. -/
def versionAt (n : Nat) : Version :=
  Int32.ofNat n

/-- Up to the greatest version, versions are as their numbers. -/
theorem toInt_versionAt {n : Nat} (h : n < 2 ^ 31) :
  (versionAt n).toInt = n
  := Int32.toInt_ofNat_of_lt h

/-- Each creation was answered by a revision whose version has the number of the creation. -/
def Numbered (cs : List Creation) : Prop :=
  ∀ (n : Nat) (c : Creation), cs[n]? = some c →
    ∃ revision, c.answer = .ok revision ∧ revision.version = versionAt (n + 1)

theorem Numbered.append {cs : List Creation} (h : Numbered cs) {c : Creation} {revision : Revision}
    (hc : c.answer = .ok revision) (hv : revision.version = versionAt (cs.length + 1)) :
  Numbered (cs ++ [c])
  := by
  intro n c' hn
  rw [List.getElem?_append] at hn
  split at hn
  · apply h n c' hn
  · obtain ⟨heq, hc'⟩ := List.getElem?_eq_some_iff.1 hn
    simp only [List.length_singleton] at heq
    obtain rfl : n = cs.length := by omega
    obtain rfl : c = c' := by simpa using hc'
    use revision, hc, hv

/-- The versions of few creations are their numbers. -/
theorem Numbered.toInt_version {cs : List Creation} (h : Numbered cs) (few : cs.length < 2 ^ 31)
    {n : Nat} {c : Creation} (hn : cs[n]? = some c) :
  ∃ revision, c.answer = .ok revision ∧ revision.version.toInt = n + 1
  := by
  obtain ⟨revision, hr, hv⟩ := h n c hn
  have hlt := (List.getElem?_eq_some_iff.1 hn).1
  refine ⟨revision, hr, ?_⟩
  rw [hv, toInt_versionAt (by omega)]
  simp

/-- The newest of numbered creations has their number as version. -/
theorem Numbered.version_newest {cs : List Creation} (h : Numbered cs) {stored : StoredSchema}
    (hs : newest cs = some stored) :
  stored.revision.version = versionAt cs.length
  := by
  obtain ⟨c, hlast, hc⟩ := Option.bind_eq_some_iff.1 hs
  rw [List.getLast?_eq_getElem?] at hlast
  obtain ⟨revision, hr, hv⟩ := h _ c hlast
  have hlt := (List.getElem?_eq_some_iff.1 hlast).1
  obtain rfl : ⟨revision, c.definition⟩ = stored := by simpa [Creation.stored?, hr] using hc
  rw [hv, Nat.sub_add_cancel (by omega)]

theorem Numbered.isSome_newest {cs : List Creation} (h : Numbered cs) (hne : cs ≠ []) :
  (newest cs).isSome
  := by
  have hlast := List.getLast?_eq_some_getLast hne
  have hget := hlast
  rw [List.getLast?_eq_getElem?] at hget
  obtain ⟨revision, hr, -⟩ := h _ _ hget
  simp [newest, hlast, Creation.stored?, hr]

/-! ### Numbering in every interleaving -/

namespace World

variable {α : Type} {clock : Nat → Timestamp}

/-- The creations of a schema are numbered, and the store has the last one. -/
structure NumberedAt (w : World Store α) (h : List Event) (schema : SchemaInfo) : Prop where
  numbered : Numbered (creationsOf schema h)
  latest : w.remote.latest? schema = newest (creationsOf schema h)

/-- A schema in the store has the number of its creations as version. -/
theorem NumberedAt.version_latest? {w : World Store α} {h : List Event} {schema : SchemaInfo}
    (hw : w.NumberedAt h schema) {stored : StoredSchema}
    (hl : w.remote.latest? schema = some stored) :
  stored.revision.version = versionAt (creationsOf schema h).length
  := hw.numbered.version_newest (hw.latest ▸ hl)

/-- A schema that was created is in the store. -/
theorem NumberedAt.isSome_latest? {w : World Store α} {h : List Event} {schema : SchemaInfo}
    (hw : w.NumberedAt h schema) (hne : creationsOf schema h ≠ []) :
  (w.remote.latest? schema).isSome
  := by
  rw [hw.latest]
  apply hw.numbered.isSome_newest hne

/-- The next revision of a schema is numbered by the creations so far. -/
theorem NumberedAt.next {w : World Store α} {h : List Event} {schema : SchemaInfo}
    (hw : w.NumberedAt h schema) :
  w.remote.nextVersion schema = versionAt ((creationsOf schema h).length + 1)
  := by
  cases hl : w.remote.latest? schema with
  | none =>
    have hnil : creationsOf schema h = [] := by
      by_contra hne
      have hstored := hw.isSome_latest? hne
      simp [hl] at hstored
    rw [Store.nextVersion_of_latest?_eq_none hl, hnil]
    rfl
  | some stored =>
    rw [Store.nextVersion_of_latest?_eq_some hl, hw.version_latest? hl]
    exact (Int32.ofNat_add _ 1).symm

/-- A creation takes the next number. -/
theorem NumberedAt.create {w w' : World Store α} {h : List Event} {request : CreateRequest}
    {i : Nat} (hw : w.NumberedAt h request.schema)
    (hremote : w'.remote = ((Client.inMemory clock).create request w.remote).2) :
  w'.NumberedAt
    (h ++ [⟨i, .created request ((Client.inMemory clock).create request w.remote).1⟩])
    request.schema
  := by
  rw [Client.inMemory_create] at hremote ⊢
  constructor
  · rw [creationsOf_append, creationsOf_created]
    apply hw.numbered.append rfl
    rw [Store.version_nextRevision, hw.next]
  · rw [creationsOf_append, creationsOf_created, newest_append, hremote, Store.latest?_create_self]
    rfl

/-- A move creates no revision of a schema, or it carries out one creation of it. -/
theorem creation_cases (clock : Nat → Timestamp) (w : World Store α) (m : Move)
    (schema : SchemaInfo) :
  creationsOf schema (w.carriedOut (.inMemory clock) m) = [] ∨
    ∃ i request, request.schema = schema ∧
      w.carriedOut (.inMemory clock) m =
        [⟨i, .created request ((Client.inMemory clock).create request w.remote).1⟩] ∧
      (w.step (.inMemory clock) m).remote = ((Client.inMemory clock).create request w.remote).2
  := by
  rcases step_cases (.inMemory clock) w m with ⟨-, hnil⟩ | hmove
  · left
    rw [hnil]
    rfl
  · obtain ⟨i, owner, stage, stage', s', c', xs, -, hadv, hs', -, -, hxs⟩ := hmove
    rw [hxs]
    cases hadv with
    | create request resume =>
      by_cases hschema : request.schema = schema
      · right
        use i, request, hschema, rfl, hs'
      · left
        simp [creationsOf, Event.creationOf?, hschema]
    | _ => simp [creationsOf, Event.creationOf?]

/-- A move that creates no revision of a schema leaves the one in the store. -/
theorem latest?_step (w : World Store α) (m : Move) {schema : SchemaInfo}
    (hnone : creationsOf schema (w.carriedOut (.inMemory clock) m) = []) :
  (w.step (.inMemory clock) m).remote.latest? schema = w.remote.latest? schema
  := by
  rcases step_cases (.inMemory clock) w m with ⟨heq, -⟩ | hmove
  · rw [heq]
  · obtain ⟨i, owner, stage, stage', s', c', xs, -, hadv, hs', -, -, hxs⟩ := hmove
    rw [hs']
    cases hadv with
    | create request resume =>
      have hne : request.schema ≠ schema := by
        rintro rfl
        simp [hxs, creationsOf, Event.creationOf?] at hnone
      simp [Store.latest?_create, hne]
    | lookup schema' resume => rw [Client.inMemory_lookup]
    | _ => rfl

theorem NumberedAt.step {w : World Store α} {h : List Event} {schema : SchemaInfo}
    (hw : w.NumberedAt h schema) (m : Move) :
  (w.step (.inMemory clock) m).NumberedAt (h ++ w.carriedOut (.inMemory clock) m) schema
  := by
  rcases creation_cases clock w m schema with hnone | ⟨i, request, rfl, hcreated, hremote⟩
  · constructor
    · rw [creationsOf_append, hnone, List.append_nil]
      apply hw.numbered
    · rw [latest?_step w m hnone, creationsOf_append, hnone, List.append_nil]
      apply hw.latest
  · rw [hcreated]
    apply hw.create hremote

/-- In every interleaving the creations of a schema are numbered, and the store has the last
one. -/
theorem NumberedAt.run {w : World Store α} {schema : SchemaInfo} (hw : w.NumberedAt [] schema)
    (moves : List Move) :
  (w.run (.inMemory clock) moves).NumberedAt (w.history (.inMemory clock) moves) schema
  := run_keeps (P := fun v h => v.NumberedAt h schema) (fun _ _ m hv => hv.step m) hw moves

theorem numberedAt_nil {w : World Store α} (hw : w.remote = .empty) (schema : SchemaInfo) :
  w.NumberedAt [] schema
  := by
  constructor
  · intro n c hn
    simp [creationsOf] at hn
  · rw [hw]
    rfl

/-! ### Reading -/

variable {σ : Type} {client : Client σ}

/-- What a history tells was carried out at a move. -/
theorem mem_history {w : World σ α} {e : Event} {moves : List Move}
    (h : e ∈ w.history client moves) :
  ∃ before m after, moves = before ++ m :: after ∧
    e ∈ (w.run client before).carriedOut client m
  := by
  induction moves generalizing w with
  | nil => simp [history] at h
  | cons m ms ih =>
    rcases List.mem_append.1 h with he | he
    · use [], m, ms, rfl, he
    · obtain ⟨before, m', after, rfl, hm'⟩ := ih he
      use m :: before, m', after, rfl, hm'

end World

end WireSchemas.Remote
