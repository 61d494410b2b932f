import WireSchemas.Proofs.Registry.Confinement
import WireSchemas.Proofs.Resolution.Absence

/-!
# Registries that create nothing unasked

A registry that does not register unseen types creates a schema only when it is asked to register
one: until then none of its requests starts a creation, whatever the remote registry answers and
whatever other registries do.  A discovery then comes to what its look-up finds, and it reports that
the type is not registered when there is nothing to look up or nothing is found.
-/

namespace WireSchemas

open Remote Resolution

variable {σ : Type}

/-! ### Bounds -/

namespace Bounds

/-- Nothing is created. -/
def barren : Bounds :=
  ⟨fun _ => False, fun _ _ => True⟩

theorem barren_allows_iff {call : Call} :
  barren.Allows call ↔ call.isCreate = false
  := by
  cases call <;> simp [barren, Allows, Call.isCreate]

theorem barren_covers (c : TypeCache) :
  barren.Covers c
  := ⟨fun _ _ _ => trivial, fun _ _ _ => trivial⟩

theorem barren_admit {o : Options} {q : Request} (h : q.mayCreate o = false) :
  barren.Admit o q
  := ⟨fun _ _ _ => trivial, by simp [h]⟩

end Bounds

/-- A request that may not create a schema starts no creation. -/
theorem Request.isCreate_calls_run {o : Options} {q : Request} (h : q.mayCreate o = false)
    (client : Client σ) (t : Token) (s : σ) (c : TypeCache) :
  ∀ call ∈ ((q.operation o c).run client t s).calls, call.isCreate = false
  := by
  have hconfined := Request.confined_operation (Bounds.barren_admit h) c (Bounds.barren_covers c)
  obtain ⟨-, -, hcalls⟩ := hconfined.run client t s
  intro call hcall
  apply Bounds.barren_allows_iff.1 (hcalls call hcall)

/-- Every outcome of a trace is that of its errand from some state of the registries. -/
theorem Registries.exists_outcome_of_mem_trace {n : Nat} {client : Client σ}
    {settings : Fin n → Options} {r : Registries n σ} {es : List (Errand n)}
    {x : Errand n × Outcome σ Response} (hx : x ∈ r.trace client settings es) :
  ∃ r' : Registries n σ, x.2 = r'.outcome client settings x.1
  := by
  induction es generalizing r with
  | nil => cases hx
  | cons e es ih =>
    rcases List.mem_cons.1 hx with rfl | hx
    · use r
    · apply ih hx

namespace Remote.World

variable {settings : List Options} {jobs : List (Job settings.length)}

/-- The tasks of a registry whose requests may not create schemas never wait for a creation, and
none is carried out for them. -/
theorem lookupsOnly_run (client : Client σ) (remote : σ) {owner : Nat}
    (hjobs : ∀ job ∈ jobs, job.owner.val = owner →
      job.request.mayCreate (settings.get job.owner) = false)
    (moves : List Move) {i : Nat} {t : Task Response}
    (ht : ((startAt remote settings jobs).run client moves).tasks[i]? = some t)
    (howner : t.owner = owner) :
  (∀ request resume, t.stage ≠ .creating request resume) ∧
    LookupsOnly (exchangesOf i ((startAt remote settings jobs).history client moves))
  := by
  have hrun := keptTo_run client remote owner
    (fun job hjob hj => Bounds.barren_admit (hjobs job hjob hj)) moves
  constructor
  · intro request resume hcreating
    apply hrun.awaited i t request resume ht howner hcreating
  · intro x hx
    cases x with
    | created request answer => cases hrun.created i t request answer ht howner hx
    | found schema answer => rfl

end Remote.World

/-! ### Discoveries that create nothing -/

namespace Resolution

variable {o : Options} {info schema : SchemaInfo} {type : MessageType} {c : TypeCache}

/-- A discovery that knows a named schema takes the answer of the client to its look-up. -/
theorem afterLookUp_of_known (o : Options) (client : Client σ) (s : σ)
    (hknown : knownSchema? c info type = some schema) (hname : ¬ schema.NameMissing) :
  let out := (findOrRegister o info type c).run client .live s
  ∃ rest, AfterLookUp o info type schema c (client.lookup schema s).1 rest out.cache out.result
  := by
  intro out
  obtain ⟨answer, rest, hheard, hafter⟩ :=
    (ensures_findOrRegister_of_known o hknown hname).run client .live s
  simp only [findOrRegister, Operation.andThen, findKnown_of_some hknown, find, hname, if_false,
    Process.bind, Process.heard, Token.call, List.cons.injEq, Exchange.found.injEq, true_and]
    at hheard
  obtain ⟨rfl, -⟩ := hheard
  use rest

/-- What a discovery comes to that may not create a schema. -/
theorem findOrRegister_uncreated (hauto : o.autoRegister = false) (client : Client σ) (s : σ)
    (hfind : ∀ schema, knownSchema? c info type = some schema →
      ∃ r, ((find schema c).run client .live s).result = .ok r) :
  let out := (findOrRegister o info type c).run client .live s
  out.result = .error (.notRegistered type) ∧ out.cache = c ∧
      (info.NameMissing ∧ c.subject? type info.format = none ∨
        ∃ schema, knownSchema? c info type = some schema ∧
          (client.lookup schema s).1 = .ok none) ∨
    ∃ schema stored, knownSchema? c info type = some schema ∧
      (client.lookup schema s).1 = .ok (some stored) ∧
      out.result = .ok (stored.record schema) ∧ out.cache = boundCache c type schema
  := by
  intro out
  cases hknown : knownSchema? c info type with
  | none =>
    left
    have hout : out = _ := congrArg (·.run client .live s)
      ((findOrRegister_of_unknown hknown).trans (registerMissed_of_not_autoRegister hauto))
    rw [hout]
    exact ⟨rfl, rfl, .inl (knownSchema?_eq_none_iff.1 hknown)⟩
  | some schema =>
    obtain ⟨r, hr⟩ := hfind schema hknown
    have hname : ¬ schema.NameMissing := by
      intro hname
      simp [find, hname, Process.run] at hr
    obtain ⟨found, hanswer, -⟩ := foundRecord_of_run_find hname hr
    obtain ⟨rest, hafter⟩ := afterLookUp_of_known o client s hknown hname
    change AfterLookUp _ _ _ _ _ _ _ out.cache out.result at hafter
    rw [hanswer] at hafter
    generalize out.cache = c', out.result = result at hafter
    cases hafter with
    | found stored => exact .inr ⟨schema, stored, rfl, hanswer, rfl, rfl⟩
    | forbidden _ => exact .inl ⟨rfl, rfl, .inr ⟨schema, rfl, hanswer⟩⟩
    | refused hon _ =>
      rw [hauto] at hon
      cases hon
    | attempted hon _ _ =>
      rw [hauto] at hon
      cases hon

end Resolution

namespace Remote.World

/-- A registry that does not register unseen types, and is not asked to register a schema, creates
none: over any remote registry, in every interleaving with whatever other registries do, and in
every sequence of requests under whatever tokens.  From every cache and state, a discovery whose
look-up does not fail reports that the type is not registered exactly when the name is missing and
the cache has no subject for the type, or when the look-up of the given or recovered name finds no
schema.  Otherwise it returns the record that it found and binds the type to its schema. -/
theorem nothing_created_unasked (client : Client σ) (remote : σ) (settings : List Options)
    (owner : Fin settings.length) (hauto : (settings.get owner).autoRegister = false) :
  (∀ (jobs : List (Job settings.length)) (moves : List Move),
    (∀ job ∈ jobs, job.owner = owner → job.request.isRegister = false) →
    let w := (startAt remote settings jobs).run client moves
    ∀ i t, w.tasks[i]? = some t → t.owner = owner.val →
      (∀ request resume, t.stage ≠ .creating request resume) ∧
        LookupsOnly (exchangesOf i ((startAt remote settings jobs).history client moves))) ∧
  (∀ (r : Registries settings.length σ) (es : List (Errand settings.length)),
    (∀ e ∈ es, e.owner = owner → e.request.isRegister = false) →
    ∀ x ∈ r.trace client settings.get es, x.1.owner = owner →
      ∀ call ∈ x.2.calls, call.isCreate = false) ∧
  ∀ (s : σ) (c : TypeCache) (info : SchemaInfo) (type : MessageType),
    let known := knownSchema? c info type
    let out := (findOrRegister (settings.get owner) info type c).run client .live s
    (∀ schema, known = some schema → ∃ r, ((find schema c).run client .live s).result = .ok r) →
      (out.result = .error (.notRegistered type) ↔
        info.NameMissing ∧ c.subject? type info.format = none ∨
          ∃ schema, known = some schema ∧ (client.lookup schema s).1 = .ok none) ∧
      (out.result ≠ .error (.notRegistered type) → ∃ schema stored, known = some schema ∧
        (client.lookup schema s).1 = .ok (some stored) ∧
        out.result = .ok (stored.record schema) ∧
        out.cache = if type.isMissing then c else c.bind type schema)
  := by
  have hmay {q : Request} (hq : q.isRegister = false) :
      q.mayCreate (settings.get owner) = false := by
    rw [Request.mayCreate, hq, hauto]
    rfl
  refine ⟨?_, ?_, ?_⟩
  · intro jobs moves hjobs w i t ht howner
    apply lookupsOnly_run client remote _ moves ht howner
    intro job hjob hj
    obtain rfl := Fin.eq_of_val_eq hj
    apply hmay (hjobs job hjob rfl)
  · intro r es hes x hx howner
    have hx' := hes x.1 (Registries.mem_of_mem_trace hx) howner
    obtain ⟨r', hout⟩ := Registries.exists_outcome_of_mem_trace hx
    rw [hout]
    apply Request.isCreate_calls_run
    rw [howner]
    apply hmay hx'
  · intro s c info type known out hfind
    rcases findOrRegister_uncreated hauto client s hfind with
      ⟨hresult, -, hmissed⟩ | ⟨schema, stored, hknown, hanswer, hresult, hcache⟩
    · exact ⟨⟨fun _ => hmissed, fun _ => hresult⟩, fun hne => absurd hresult hne⟩
    · refine ⟨⟨?_, ?_⟩, fun _ => ⟨schema, stored, hknown, hanswer, hresult, hcache⟩⟩
      · intro hfailed
        cases hresult.symm.trans hfailed
      · rintro (hunknown | ⟨schema', hknown', hnone⟩)
        · cases (knownSchema?_eq_none_iff.2 hunknown).symm.trans hknown
        · obtain rfl := Option.some.inj (hknown'.symm.trans hknown)
          cases hnone.symm.trans hanswer

/-- A registry that does not register unseen types beside one that registers a schema. -/
def besideRegistration : List (Job 2) :=
  [⟨⟨0, Nat.zero_lt_two⟩, .findOrRegister ⟨"users", .json⟩ ⟨"", "User"⟩⟩,
    ⟨⟨1, Nat.one_lt_two⟩, .register ⟨"users", .json⟩ "users/1" ⟨"", "User"⟩⟩]

/-- The registry finds no schema until the other one has registered it. -/
theorem nothing_created_beside_registration :
  let settings : List Options := [⟨.fullName, false⟩, .default]
  let client := Client.inMemory fun _ => .epoch
  let w := (startAt .empty settings besideRegistration).run client (turns 2 1)
  let call := findOrRegister ⟨.fullName, false⟩
  LookupsOnly (exchangesOf 0
    ((startAt .empty settings besideRegistration).history client (turns 2 1))) ∧
  ((call ⟨"", .json⟩ ⟨"", "User"⟩ .empty).run client .live w.remote).result =
    .error (.notRegistered ⟨"", "User"⟩) ∧
  ((call ⟨"users", .json⟩ ⟨"", "User"⟩ .empty).run client .live w.remote).cache.type?
    ⟨"users", .json⟩ = some ⟨"", "User"⟩
  := by
  intro settings client w call
  obtain ⟨hruns, -, hcalls⟩ := nothing_created_unasked client .empty settings ⟨0, by decide⟩ rfl
  refine ⟨?_, ?_, ?_⟩
  · apply (hruns besideRegistration (turns 2 1) (by decide) 0 _ rfl rfl).2
  · apply (hcalls w.remote .empty ⟨"", .json⟩ ⟨"", "User"⟩ (by rintro schema ⟨⟩)).1.2
    exact .inl ⟨by decide, rfl⟩
  · have hfind : ∀ schema, knownSchema? .empty ⟨"users", .json⟩ ⟨"", "User"⟩ = some schema →
        ∃ r, ((find schema .empty).run client .live w.remote).result = .ok r := by
      rintro schema ⟨⟩
      exact ⟨_, rfl⟩
    obtain ⟨schema, stored, ⟨⟩, -, -, hcache⟩ :=
      (hcalls w.remote .empty ⟨"users", .json⟩ ⟨"", "User"⟩ hfind).2 (by decide +kernel)
    have hbound := congrArg (fun c : TypeCache => c.type? ⟨"users", .json⟩) hcache
    apply hbound.trans
    rfl

end Remote.World

end WireSchemas
