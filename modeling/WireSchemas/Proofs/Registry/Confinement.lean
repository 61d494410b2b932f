import WireSchemas.Proofs.Remote.Confinement
import WireSchemas.Proofs.Registry.Sequence
import WireSchemas.Proofs.Serializer.Outcome

/-!
# What registries may do

`Bounds` say which schemas a registry may create and which it may bind to which types.  A registry
creates only the schemas of registrations, and binds beside these only named schemas that it has
found, so bounds that leave room for them hold every request of every kind:
`Request.confined_operation`.  They are kept in every interleaving with the requests of other
registries, over any remote registry.
-/

namespace WireSchemas

open Remote Resolution

variable {σ α β : Type}

/-- Which schemas may be created, and which may be bound to a type. -/
structure Bounds where
  creates : SchemaInfo → Prop
  binds : MessageType → SchemaInfo → Prop

namespace Bounds

variable (b : Bounds)

/-- The calls within the bounds. -/
def Allows : Call → Prop
  | .create request => b.creates request.schema
  | .lookup _ => True

/-- A cache with all bindings within the bounds, in both of its directions. -/
structure Covers (c : TypeCache) : Prop where
  types : ∀ schema type, c.type? schema = some type → b.binds type schema
  bound : ∀ schema type, schema ∈ c.bound type → b.binds type schema

variable {b}

/-- Anything may be created and bound. -/
def free : Bounds :=
  ⟨fun _ => True, fun _ _ => True⟩

theorem covers_empty :
  b.Covers .empty
  := ⟨nofun, nofun⟩

theorem Covers.bind {c : TypeCache} (h : b.Covers c) {type : MessageType} {schema : SchemaInfo}
    (hb : b.binds type schema) :
  b.Covers (c.bind type schema)
  := by
  constructor
  · intro schema' type' htype
    rw [TypeCache.type?_bind] at htype
    split at htype
    · next heq =>
      obtain rfl := Option.some.inj htype
      rw [← heq]
      apply hb
    · apply h.types schema' type' htype
  · intro schema' type' hmem
    rw [TypeCache.mem_bound_iff, TypeCache.get?_schemaSet_bind] at hmem
    split at hmem
    · next heq =>
      obtain ⟨rfl, rfl⟩ := heq
      apply hb
    · split at hmem
      · cases hmem
      · apply h.bound schema' type' (TypeCache.mem_bound_iff.2 hmem)

end Bounds

/-- Whether a request registers a schema outright. -/
def Request.isRegister : Request → Bool
  | register _ _ _ => true
  | _ => false

/-- Whether a request to a registry with given settings may create a schema. -/
def Request.mayCreate (o : Options) (q : Request) : Bool :=
  q.isRegister || o.autoRegister

/-- The bounds leave room for what a request may bind when it finds a schema, and when it may create
one. -/
structure Bounds.Admit (b : Bounds) (o : Options) (q : Request) : Prop where
  found : ∀ type schema, ¬ schema.NameMissing → b.binds type schema
  made : q.mayCreate o = true → ∀ info type schema, o.registrationSchema info type = .ok schema →
    b.creates schema ∧ b.binds type schema

theorem Bounds.free_admit (o : Options) (q : Request) :
  free.Admit o q
  := ⟨fun _ _ _ => trivial, fun _ _ _ _ _ => ⟨trivial, trivial⟩⟩

/-- The record that a registration returns is of a schema that may be created. -/
def Request.ReturnsWithin (b : Bounds) : Request → Response → Prop
  | register _ _ _, .record (.ok r) => b.creates r.info
  | _, _ => True

/-! ### The resolution of schemas -/

namespace Resolution

variable {b : Bounds} {o : Options}

/-- A record that was found is of a named schema. -/
def Named (result : Except Failure RegisteredSchema) : Prop :=
  ∀ r, result = .ok r → r.isNone = false → ¬ r.info.NameMissing

theorem confined_find (b : Bounds) (info : SchemaInfo) :
  (find info).Confined b.Allows b.Covers Named
  := by
  intro c hc
  rw [find]
  split
  · exact ⟨hc, by simp [Named]⟩
  · next hname =>
    refine ⟨hc, trivial, ?_⟩
    intro answer c' hc'
    refine ⟨hc', ?_⟩
    intro r hr hfound
    cases answer with
    | error f => cases hr
    | ok found =>
      obtain rfl := Except.ok.inj hr
      cases found with
      | none => simp [RegisteredSchema.isNone] at hfound
      | some stored => apply hname

theorem confined_findKnown (b : Bounds) (info : SchemaInfo) (type : MessageType) :
  (findKnown info type).Confined b.Allows b.Covers Named
  := by
  intro c hc
  rw [findKnown]
  split
  · split
    · apply confined_find b _ c hc
    · refine ⟨hc, ?_⟩
      rintro r ⟨⟩ hfound
      simp [RegisteredSchema.isNone] at hfound
  · apply confined_find b info c hc

theorem confined_register (info : SchemaInfo) (definition : String) (type : MessageType)
    (h : ∀ schema, o.registrationSchema info type = .ok schema →
      b.creates schema ∧ b.binds type schema) :
  (register o info definition type).Confined b.Allows b.Covers
    fun result => ∀ r, result = .ok r → b.creates r.info
  := by
  intro c hc
  rw [register]
  split
  · exact ⟨hc, by simp⟩
  · next schema hschema =>
    obtain ⟨hcreates, hbinds⟩ := h schema hschema
    refine ⟨hc, hcreates, ?_⟩
    intro answer c' hc'
    cases answer with
    | error f => exact ⟨hc', by simp⟩
    | ok revision =>
      refine ⟨hc'.bind hbinds, ?_⟩
      rintro r ⟨⟩
      apply hcreates

theorem confined_findOrRegister (info : SchemaInfo) (type : MessageType)
    (hfound : ∀ schema, ¬ schema.NameMissing → b.binds type schema)
    (hmade : o.autoRegister = true → ∀ schema, o.registrationSchema info type = .ok schema →
      b.creates schema ∧ b.binds type schema) :
  (findOrRegister o info type).Confined b.Allows b.Covers fun _ => True
  := by
  apply (confined_findKnown b info type).andThen
  · intros
    trivial
  intro r hnamed c hc
  by_cases hr : r.isNone = true
  · simp only [hr, Bool.not_true, Bool.false_eq_true, if_false]
    split
    · exact ⟨hc, trivial⟩
    · next hauto =>
      have hregister := confined_register info "" type (hmade (by simpa using hauto)) c hc
      apply hregister.imp
      intros
      trivial
  · have hnone : r.isNone = false := by simpa using hr
    simp only [hnone, Bool.not_false, if_true]
    refine ⟨?_, trivial⟩
    split
    · apply hc
    · apply hc.bind (hfound r.info (hnamed r rfl hnone))

theorem confined_findAll (b : Bounds) (infos : List SchemaInfo) :
  (findAll infos).Confined b.Allows b.Covers fun _ => True
  := by
  induction infos with
  | nil => exact fun c hc => ⟨hc, trivial⟩
  | cons info rest ih =>
    apply (confined_find b info).andThen
    · intros
      trivial
    intro r _
    apply ih.andThen
    · intros
      trivial
    intro rs _ c hc
    exact ⟨hc, trivial⟩

end Resolution

/-! ### Requests -/

theorem Remote.Operation.Confined.map {allowed : Call → Prop} {I : TypeCache → Prop}
    {Q : α → Prop} {R : β → Prop} {op : Operation α} {f : α → β} (h : op.Confined allowed I Q)
    (hQR : ∀ a, Q a → R (f a)) :
  (op.map f).Confined allowed I R
  := by
  intro c hc
  apply (h c hc).bind
  intro c' a hc' ha
  exact ⟨hc', hQR a ha⟩

variable {b : Bounds} {o : Options}

theorem Codec.confined_serialize (codec : Codec) (catalog : Catalog) (m : Option Message)
    (headers : Headers) (hfound : ∀ type schema, ¬ schema.NameMissing → b.binds type schema)
    (hmade : o.autoRegister = true → ∀ info type schema,
      o.registrationSchema info type = .ok schema → b.creates schema ∧ b.binds type schema) :
  (codec.serialize o catalog m headers).Confined b.Allows b.Covers fun _ => True
  := by
  cases himmediate : codec.immediate? (SchemaInfo.ofHeaders headers) m with
  | some body =>
    intro c hc
    rw [serialize_of_immediate? himmediate]
    exact ⟨hc, trivial⟩
  | none =>
    obtain ⟨hformat, m, rfl, hraw⟩ := exists_record_of_immediate?_eq_none himmediate
    rw [serialize_record o catalog hformat hraw]
    apply Operation.Confined.map
    · apply confined_findOrRegister _ m.type (hfound m.type)
      intro hauto
      apply hmade hauto
    · intros
      trivial

/-- A request keeps to bounds that leave room for it. -/
theorem Request.confined_operation {q : Request} (h : b.Admit o q) :
  (q.operation o).Confined b.Allows b.Covers (q.ReturnsWithin b)
  := by
  have hmade : o.autoRegister = true → ∀ info type schema,
      o.registrationSchema info type = .ok schema → b.creates schema ∧ b.binds type schema := by
    intro hauto
    apply h.made
    simp [mayCreate, hauto]
  cases q with
  | register info definition type =>
    apply (confined_register info definition type (h.made rfl info type)).map
    intro result hresult
    cases result with
    | error f => trivial
    | ok r => apply hresult r rfl
  | find info =>
    apply (confined_find b info).map
    intros
    trivial
  | findOrRegister info type =>
    apply (confined_findOrRegister info type (h.found type) fun hauto => hmade hauto info type).map
    intros
    trivial
  | list type format =>
    intro c hc
    apply (confined_findAll b (c.schemasOf type format) c hc).bind
    intro c' result hc' hresult
    exact ⟨hc', trivial⟩
  | serialize codecs catalog m headers =>
    apply Operation.Confined.map (Q := fun _ => True)
    · rw [Registry.serialize]
      split
      · next codec hcodec => apply codec.confined_serialize catalog m headers h.found hmade
      · exact fun c hc => ⟨hc, trivial⟩
    · intros
      trivial
  | serializeBy codec catalog m headers =>
    apply (codec.confined_serialize catalog m headers h.found hmade).map
    intros
    trivial

/-! ### Interleavings -/

namespace Remote.World

/-- Registries with given settings and empty caches over a remote registry in some state, and
requests to them that are not begun. -/
def startAt (remote : σ) (settings : List Options) (jobs : List (Job settings.length)) :
    World σ Response where
  remote := remote
  caches := settings.map fun _ => .empty
  tasks := jobs.map fun j => ⟨j.owner, .fresh (j.request.operation (settings.get j.owner))⟩
  calls := []

variable {settings : List Options} {jobs : List (Job settings.length)}

/-- The caches and the tasks are those of `start`, which is over the empty store. -/
theorem cacheOf_startAt (remote : σ) (owner : Nat) :
  (startAt remote settings jobs).cacheOf owner = .empty
  := @cacheOf_start settings jobs owner

theorem tasks_startAt {remote : σ} {i : Nat} {t : Task Response}
    (h : (startAt remote settings jobs).tasks[i]? = some t) :
  ∃ job, jobs[i]? = some job ∧
    t = ⟨job.owner, .fresh (job.request.operation (settings.get job.owner))⟩
  := tasks_start h

/-- A registry has kept to bounds: what it has bound, the creations that its tasks wait for and
those that were carried out for them, and the records that its registrations returned. -/
structure KeptTo (b : Bounds) (jobs : List (Job settings.length)) (owner : Nat)
    (w : World σ Response) (h : List Event) : Prop where
  covers : b.Covers (w.cacheOf owner)
  awaited : ∀ (i : Nat) (t : Task Response) request resume, w.tasks[i]? = some t →
    t.owner = owner → t.stage = .creating request resume → b.creates request.schema
  created : ∀ (i : Nat) (t : Task Response) request answer, w.tasks[i]? = some t →
    t.owner = owner → .created request answer ∈ exchangesOf i h → b.creates request.schema
  returned : ∀ (i : Nat) (job : Job settings.length) r, jobs[i]? = some job →
    job.owner.val = owner → job.request.isRegister = true →
      w.result? i = some (.record (.ok r)) → b.creates r.info

/-- A registry keeps to bounds that leave room for the requests to it, over every remote registry
and in every interleaving with whatever other registries do. -/
theorem keptTo_run (client : Client σ) (remote : σ) (owner : Nat)
    (hb : ∀ job ∈ jobs, job.owner.val = owner →
      b.Admit (settings.get job.owner) job.request)
    (moves : List Move) :
  ((startAt remote settings jobs).run client moves).KeptTo b jobs owner
    ((startAt remote settings jobs).history client moves)
  := by
  -- the other registries may do anything
  let bounds (j : Nat) : Bounds := if j = owner then b else .free
  have howner : bounds owner = b := if_pos rfl
  have hbounds : ∀ job ∈ jobs, (bounds job.owner).Admit (settings.get job.owner) job.request := by
    intro job hjob
    simp only [bounds]
    split
    · next hj => apply hb job hjob hj
    · apply Bounds.free_admit
  have hstart : (startAt remote settings jobs).Confined (fun j => (bounds j).Allows)
      (fun j => (bounds j).Covers)
      (fun i response => ∀ job, jobs[i]? = some job →
        job.request.ReturnsWithin (bounds job.owner) response) [] := by
    constructor
    · intro j
      rw [cacheOf_startAt]
      apply Bounds.covers_empty
    · intro i t ht
      obtain ⟨job, hjob, rfl⟩ := tasks_startAt ht
      refine ⟨?_, by simp [exchangesOf]⟩
      intro c hc
      apply (Request.confined_operation (hbounds job (List.mem_of_getElem? hjob)) c hc).imp
      intro response hresponse job' hjob'
      obtain rfl := Option.some.inj (hjob.symm.trans hjob')
      apply hresponse
  have hrun : ((startAt remote settings jobs).run client moves).Confined _ _ _ _ :=
    hstart.run moves
  constructor
  · rw [← howner]
    apply hrun.caches
  · intro i t request resume ht hj hcreating
    obtain ⟨hstage, -⟩ := hrun.tasks i t ht
    rw [hj, howner, hcreating] at hstage
    apply hstage.1
  · intro i t request answer ht hj hcreated
    obtain ⟨-, hexchanges⟩ := hrun.tasks i t ht
    rw [hj, howner] at hexchanges
    apply hexchanges _ hcreated
  · intro i job r hjob hj hregister hresult
    obtain ⟨⟨j, stage⟩, ht, hfinished⟩ := Option.bind_eq_some_iff.1 hresult
    obtain ⟨hstage, -⟩ := hrun.tasks i _ ht
    cases stage with
    | finished response =>
      obtain rfl := Option.some.inj hfinished
      have hreturns := hstage job hjob
      rw [hj, howner] at hreturns
      cases hq : job.request with
      | register info definition type =>
        rw [hq] at hreturns
        apply hreturns
      | _ =>
        rw [hq] at hregister
        cases hregister
    | _ => cases hfinished

end Remote.World

end WireSchemas
