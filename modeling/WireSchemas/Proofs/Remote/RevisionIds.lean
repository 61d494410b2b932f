import WireSchemas.Proofs.Checksum.Fields
import WireSchemas.Proofs.Checksum.Hasher
import WireSchemas.Proofs.DataFormat
import WireSchemas.Proofs.Remote.Revisions
import WireSchemas.Proofs.Text.Integer
import WireSchemas.Proofs.Text.Utf8

/-!
# Identifiers of revisions

The identifier of a revision is the checksum of its subject, its format, its version and its
definition.  The stream of these fields tells the first three, and no schema has a version twice, so
no two revisions of a store have one stream, whatever becomes of their definitions on the way.  Two
that have one identifier are a collision of digests: `World.revision_ids_identify`.
-/

namespace WireSchemas

/-- Two messages collide when they are different and have one digest. -/
structure Sha256.Collision (message message' : Bytes) : Prop where
  different : message ≠ message'
  digest : digest message = digest message'

/-! ### Short fields -/

namespace Checksum

theorem short_name (f : DataFormat) :
  Short f.name
  := by
  cases f <;> decide

theorem short_integerText_version (v : Int32) :
  Short (Text.integerText v.toInt)
  := by
  have hlt := v.toInt_lt
  have hle := v.le_toInt
  have hdigits : v.toInt.natAbs < 10 ^ 10 := by omega
  have hlength := Text.length_integerText_le (by decide) hdigits
  have hbytes := Text.Utf8.length_encode_le (Text.integerText v.toInt)
  rw [Short]
  omega

end Checksum

namespace Remote

/-! ### Streams of revisions -/

/-- The bytes that the identifier of a revision is the checksum of. -/
def revisionStream (request : CreateRequest) (version : Version) : Bytes :=
  Checksum.fieldStream (Store.revisionFields request version)

/-- The stream of a revision tells its schema and its version. -/
theorem revisionStream_inj {request request' : CreateRequest} {version version' : Version}
    (hshort : Checksum.Short request.schema.name) (hshort' : Checksum.Short request'.schema.name)
    (h : revisionStream request version = revisionStream request' version') :
  request.schema = request'.schema ∧ version = version'
  := by
  simp only [revisionStream, Store.revisionFields, Checksum.fieldStream_cons] at h
  -- the definition comes last, so nothing has to be known of it
  obtain ⟨hname, h⟩ := (Checksum.framed_append_inj hshort hshort').1 h
  obtain ⟨hformat, h⟩ :=
    (Checksum.framed_append_inj (Checksum.short_name _) (Checksum.short_name _)).1 h
  obtain ⟨hversion, -⟩ := (Checksum.framed_append_inj (Checksum.short_integerText_version _)
    (Checksum.short_integerText_version _)).1 h
  constructor
  · exact congrArg₂ SchemaInfo.mk hname (DataFormat.name_inj.1 hformat)
  · exact Int32.toInt_inj.1 (Text.integerText_inj.1 hversion)

variable {clock : Nat → Timestamp}

/-- A store identifies a revision by the checksum of its stream. -/
theorem id_of_create {s : Store} {request : CreateRequest} {revision : Revision}
    (h : ((Client.inMemory clock).create request s).1 = .ok revision) :
  revision.id = Checksum.ofBytes (revisionStream request revision.version)
  := by
  obtain rfl := Except.ok.inj h
  rfl

/-! ### Revisions of a history -/

/-- The revision that an event created, with its request, if it did. -/
def Event.revision? (e : Event) : Option (CreateRequest × Revision) :=
  match e.exchange with
  | .created request (.ok revision) => some (request, revision)
  | _ => none

/-- The revisions that were created, with their requests, in order. -/
def revisionsOf (history : List Event) : List (CreateRequest × Revision) :=
  history.filterMap Event.revision?

theorem Event.exchange_of_revision? {e : Event} {p : CreateRequest × Revision}
    (h : e.revision? = some p) :
  e.exchange = .created p.1 (.ok p.2)
  := by
  simp only [revision?] at h
  split at h
  · next hexchange =>
    obtain rfl := Option.some.inj h
    apply hexchange
  · cases h

theorem Event.creationOf?_of_revision? {e : Event} {p : CreateRequest × Revision}
    (h : e.revision? = some p) :
  e.creationOf? p.1.schema = some ⟨e.task, p.1.definition, .ok p.2⟩
  := by
  simp [creationOf?, exchange_of_revision? h]

/-- Few numbered creations have different versions. -/
theorem Numbered.pairwise {cs : List Creation} (h : Numbered cs) (few : cs.length < 2 ^ 31) :
  cs.Pairwise fun c c' => ∀ r r', c.answer = .ok r → c'.answer = .ok r' → r.version ≠ r'.version
  := by
  rw [List.pairwise_iff_getElem]
  intro i j hi hj hij r r' hr hr' hversion
  obtain ⟨s, hs, hv⟩ := h.toInt_version few (List.getElem?_eq_getElem hi)
  obtain ⟨s', hs', hv'⟩ := h.toInt_version few (List.getElem?_eq_getElem hj)
  obtain rfl := Except.ok.inj (hr.symm.trans hs)
  obtain rfl := Except.ok.inj (hr'.symm.trans hs')
  rw [hversion] at hv
  omega

/-- When the creations of each schema are numbered and few, no schema has two revisions of one
version. -/
theorem pairwise_revisionsOf {history : List Event}
    (hnum : ∀ schema, Numbered (creationsOf schema history))
    (few : ∀ schema, (creationsOf schema history).length < 2 ^ 31) :
  (revisionsOf history).Pairwise fun p q =>
    p.1.schema = q.1.schema → p.2.version ≠ q.2.version
  := by
  rw [revisionsOf, List.pairwise_filterMap, List.pairwise_iff_forall_sublist]
  intro e e' hsublist p hp q hq hschema
  have hversions := (hnum p.1.schema).pairwise (few p.1.schema)
  rw [creationsOf, List.pairwise_filterMap, List.pairwise_iff_forall_sublist] at hversions
  have hq' := Event.creationOf?_of_revision? hq
  rw [← hschema] at hq'
  apply hversions hsublist _ (Event.creationOf?_of_revision? hp) _ hq' _ _ rfl rfl

/-- Numbered creations have not failed. -/
theorem Numbered.exists_revision {history : List Event} {e : Event} {request : CreateRequest}
    {answer : Except Failure Revision} (hnum : Numbered (creationsOf request.schema history))
    (he : e ∈ history) (hexchange : e.exchange = .created request answer) :
  ∃ revision, answer = .ok revision
  := by
  have hcreation : e.creationOf? request.schema = some ⟨e.task, request.definition, answer⟩ := by
    simp [Event.creationOf?, hexchange]
  have hmem := List.mem_filterMap.2 ⟨e, he, hcreation⟩
  obtain ⟨n, hn⟩ := List.mem_iff_getElem?.1 hmem
  obtain ⟨revision, hrevision, -⟩ := hnum n _ hn
  use revision, hrevision

namespace World

variable {α : Type} {w : World Store α} {moves : List Move}

/-- The identifiers of a history are checksums of streams. -/
theorem id_of_mem_history {e : Event} {request : CreateRequest} {revision : Revision}
    (he : e ∈ w.history (.inMemory clock) moves)
    (hexchange : e.exchange = .created request (.ok revision)) :
  revision.id = Checksum.ofBytes (revisionStream request revision.version)
  := by
  obtain ⟨before, m, after, -, hm⟩ := mem_history he
  cases m with
  | proceed i => simp [carriedOut] at hm
  | cancel i => simp [carriedOut] at hm
  | carryOut i =>
    simp only [carriedOut] at hm
    split at hm
    · obtain rfl := List.mem_singleton.1 hm
      injection hexchange with hrequest hanswer
      subst hrequest
      apply id_of_create hanswer
    · obtain rfl := List.mem_singleton.1 hm
      cases hexchange
    · cases hm

/-- Identifiers identify revisions.  The stream of short fields tells them, and their checksum is
that of the stream, whether they are hashed together or one after the other.  In every interleaving
over an empty store with less than `2 ^ 31` creations of each schema, every creation makes a
revision whose identifier is the checksum of its stream, and no two revisions have one stream: if
they have one identifier, their streams collide. -/
theorem revision_ids_identify :
  (∀ fields fields' : List String, (∀ f ∈ fields, Checksum.Short f) →
    (∀ f ∈ fields', Checksum.Short f) →
      Checksum.fieldStream fields = Checksum.fieldStream fields' → fields = fields') ∧
  (∀ fields, Checksum.hashed fields = Checksum.ofBytes (Checksum.fieldStream fields) ∧
    Checksum.ofFields fields = Checksum.ofBytes (Checksum.fieldStream fields)) ∧
  ∀ {α : Type} (clock : Nat → Timestamp) (w : World Store α) (moves : List Move),
    let h := w.history (.inMemory clock) moves
    w.remote = .empty → (∀ schema, (creationsOf schema h).length < 2 ^ 31) →
      (∀ p ∈ revisionsOf h, Checksum.Short p.1.schema.name) →
        (∀ e ∈ h, ∀ request answer, e.exchange = .created request answer →
          ∃ revision, answer = .ok revision ∧
            revision.id = Checksum.ofBytes (revisionStream request revision.version)) ∧
        (revisionsOf h).Pairwise fun p q =>
          let stream := revisionStream p.1 p.2.version
          let stream' := revisionStream q.1 q.2.version
          stream ≠ stream' ∧ (p.2.id = q.2.id → Sha256.Collision stream stream')
  := by
  refine ⟨?_, fun fields => ⟨Checksum.hashed_eq_ofFields fields, rfl⟩, ?_⟩
  · intro fields fields' hshort hshort'
    apply (Checksum.fieldStream_inj hshort hshort').1
  · intro α clock w moves h hw few hshort
    have hnum : ∀ schema, Numbered (creationsOf schema h) :=
      fun schema => ((numberedAt_nil hw schema).run moves).numbered
    constructor
    · intro e he request answer hexchange
      obtain ⟨revision, rfl⟩ := (hnum request.schema).exists_revision he hexchange
      use revision, rfl
      apply id_of_mem_history he hexchange
    · apply (pairwise_revisionsOf hnum few).imp_of_mem
      intro p q hp hq hversions stream stream'
      obtain ⟨e, he, hrevision⟩ := List.mem_filterMap.1 hp
      obtain ⟨e', he', hrevision'⟩ := List.mem_filterMap.1 hq
      have hdifferent : stream ≠ stream' := by
        intro hstream
        obtain ⟨hschema, hversion⟩ := revisionStream_inj (hshort p hp) (hshort q hq) hstream
        apply hversions hschema hversion
      refine ⟨hdifferent, ?_⟩
      intro hid
      rw [id_of_mem_history he (Event.exchange_of_revision? hrevision),
        id_of_mem_history he' (Event.exchange_of_revision? hrevision')] at hid
      exact ⟨hdifferent, Checksum.ofBytes_eq_iff.1 hid⟩

/-- Tasks that create or update one schema each, over an empty store. -/
def creating (requests : List CreateRequest) : World Store Unit where
  remote := .empty
  caches := []
  tasks := requests.map fun request => ⟨0, .creating request fun _ c => .done c ()⟩
  calls := []

/-- Requests for two subjects and two formats, one of them repeated, with definitions that are not
UTF-8 and are read as one text. -/
def brokenDefinitions : List CreateRequest :=
  [⟨⟨"users", .json⟩, [0xFF]⟩, ⟨⟨"users", .json⟩, [0xFE]⟩, ⟨⟨"users", .protobuf⟩, [0xFF]⟩,
    ⟨⟨"user", .json⟩, [0xFF]⟩, ⟨⟨"users", .json⟩, [0xFF]⟩]

theorem brokenDefinitions_identified :
  ((∀ f ∈ ["ab", "c"], Checksum.Short f) ∧ ∀ f ∈ ["a", "bc"], Checksum.Short f) ∧
  Checksum.fieldStream ["ab", "c"] ≠ Checksum.fieldStream ["a", "bc"] ∧
  let h := (creating brokenDefinitions).history (.inMemory fun _ => .epoch)
    [.carryOut 1, .carryOut 3, .carryOut 0, .carryOut 4, .carryOut 2]
  ((creating brokenDefinitions).remote = .empty ∧
    (∀ schema, (creationsOf schema h).length < 2 ^ 31) ∧
    ∀ p ∈ revisionsOf h, Checksum.Short p.1.schema.name) ∧
    (revisionsOf h).length = 5 ∧
    (revisionsOf h).Pairwise fun p q =>
      revisionStream p.1 p.2.version ≠ revisionStream q.1 q.2.version
  := by
  obtain ⟨hfields, -, hrun⟩ := revision_ids_identify
  have hleft : ∀ f ∈ ["ab", "c"], Checksum.Short f := by decide
  have hright : ∀ f ∈ ["a", "bc"], Checksum.Short f := by decide
  have hboundary : Checksum.fieldStream ["ab", "c"] ≠ Checksum.fieldStream ["a", "bc"] := by
    intro hstream
    exact absurd (hfields _ _ hleft hright hstream) (by decide)
  refine ⟨⟨hleft, hright⟩, hboundary, ?_⟩
  intro h
  have hlength : h.length = 5 := by decide +kernel
  have few : ∀ schema, (creationsOf schema h).length < 2 ^ 31 := by
    intro schema
    have hle := List.length_filterMap_le (Event.creationOf? schema) h
    rw [creationsOf]
    omega
  have hshort : ∀ p ∈ revisionsOf h, Checksum.Short p.1.schema.name := by
    have hnames : ∀ p ∈ revisionsOf h, p.1.schema.name.length ≤ 5 := by decide +kernel
    intro p hp
    have hle := Text.Utf8.length_encode_le p.1.schema.name
    have hname := hnames p hp
    rw [Checksum.Short]
    omega
  obtain ⟨-, hpairwise⟩ := hrun (fun _ => .epoch) (creating brokenDefinitions) _ rfl few hshort
  refine ⟨⟨rfl, few, hshort⟩, by decide +kernel, hpairwise.imp fun h => h.1⟩

end World

end Remote

end WireSchemas
