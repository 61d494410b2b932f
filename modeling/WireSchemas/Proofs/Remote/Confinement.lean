import WireSchemas.Proofs.Remote.Guarantee
import WireSchemas.Proofs.Remote.Heard

/-!
# Confined operations

An operation is confined when every call it starts is allowed, when it leaves the cache with a
property at each of its stops, and when its result is as it should be.  It may rely on that property
whenever it goes on, but on nothing that the remote registry answers.  So confinement is a matter of
each registry on its own: when all operations of a registry are confined, they are so in every
interleaving, whatever other registries do: `World.Confined.run`.
-/

namespace WireSchemas.Remote

variable {σ α β : Type}

/-- A process starts allowed calls only, leaves the property true at its stops and ends with a
result that satisfies `Q`, if the property holds whenever it goes on. -/
def Process.Confined (allowed : Call → Prop) (I : TypeCache → Prop) (Q : α → Prop) :
    Process α → Prop
  | .done c a => I c ∧ Q a
  | .create c request resume =>
    I c ∧ allowed (.create request) ∧
      ∀ answer c', I c' → (resume answer c').Confined allowed I Q
  | .lookup c schema resume =>
    I c ∧ allowed (.lookup schema) ∧
      ∀ answer c', I c' → (resume answer c').Confined allowed I Q

/-- An operation is confined from every cache with the property. -/
def Operation.Confined (allowed : Call → Prop) (I : TypeCache → Prop) (Q : α → Prop)
    (op : Operation α) : Prop :=
  ∀ c, I c → (op c).Confined allowed I Q

/-- A task that stands at a stage is confined when it goes on. -/
def Stage.Confined (allowed : Call → Prop) (I : TypeCache → Prop) (Q : α → Prop) :
    Stage α → Prop
  | .fresh op => op.Confined allowed I Q
  | .creating request resume =>
    allowed (.create request) ∧ ∀ answer, (resume answer).Confined allowed I Q
  | .lookingUp schema resume =>
    allowed (.lookup schema) ∧ ∀ answer, (resume answer).Confined allowed I Q
  | .answered taken lost => taken.Confined allowed I Q ∧ lost.Confined allowed I Q
  | .finished a => Q a

variable {allowed : Call → Prop} {I : TypeCache → Prop} {Q : α → Prop}

/-! ### Single operations -/

/-- A confined process followed by an operation that is confined after each of its results. -/
theorem Process.Confined.bind {R : β → Prop} {p : Process α} {next : α → Operation β}
    (h : p.Confined allowed I Q)
    (hnext : ∀ c a, I c → Q a → (next a c).Confined allowed I R) :
  (p.bind next).Confined allowed I R
  := by
  induction p with
  | done c a => apply hnext c a h.1 h.2
  | create c request resume ih =>
    refine ⟨h.1, h.2.1, ?_⟩
    intro answer c' hc'
    apply ih answer c' (h.2.2 answer c' hc')
  | lookup c schema resume ih =>
    refine ⟨h.1, h.2.1, ?_⟩
    intro answer c' hc'
    apply ih answer c' (h.2.2 answer c' hc')

/-- A weaker condition on results holds as well. -/
theorem Process.Confined.imp {R : α → Prop} {p : Process α} (h : p.Confined allowed I Q)
    (hQR : ∀ a, Q a → R a) :
  p.Confined allowed I R
  := by
  induction p with
  | done c a => exact ⟨h.1, hQR a h.2⟩
  | create c request resume ih =>
    refine ⟨h.1, h.2.1, ?_⟩
    intro answer c' hc'
    apply ih answer c' (h.2.2 answer c' hc')
  | lookup c schema resume ih =>
    refine ⟨h.1, h.2.1, ?_⟩
    intro answer c' hc'
    apply ih answer c' (h.2.2 answer c' hc')

/-- Confined operations in sequence, the second after each success of the first. -/
theorem Operation.Confined.andThen {Q : Except Failure α → Prop} {R : Except Failure β → Prop}
    {op : Operation (Except Failure α)} {next : α → Operation (Except Failure β)}
    (h : op.Confined allowed I Q) (herror : ∀ f, Q (.error f) → R (.error f))
    (hok : ∀ a, Q (.ok a) → (next a).Confined allowed I R) :
  (op.andThen next).Confined allowed I R
  := by
  intro c hc
  apply (h c hc).bind
  intro c' result hc' hresult
  cases result with
  | error f => exact ⟨hc', herror f hresult⟩
  | ok a => apply hok a hresult c' hc'

theorem Process.Confined.cache {p : Process α} (h : p.Confined allowed I Q) :
  I p.cache
  := by
  cases p <;> apply h.1

theorem Process.Confined.stage {p : Process α} (h : p.Confined allowed I Q) :
  p.stage.Confined allowed I Q
  := by
  cases p <;> apply h.2

/-- A run of a confined process, whatever the client answers and whenever the token fires. -/
theorem Process.Confined.run {p : Process α} (h : p.Confined allowed I Q) (client : Client σ)
    (t : Token) (s : σ) :
  let out := p.run client t s
  I out.cache ∧ Q out.result ∧ ∀ call ∈ out.calls, allowed call
  := by
  induction p generalizing t s with
  | done c a => exact ⟨h.1, h.2, by simp [Process.run]⟩
  | create c request resume ih =>
    let reply := t.call (client.create request) s
    obtain ⟨hcache, hresult, hcalls⟩ :=
      ih reply.answer c (h.2.2 reply.answer c h.1) reply.token reply.state
    simp only [Process.run, Outcome.cache_after, Outcome.result_after]
    refine ⟨hcache, hresult, fun call hcall => ?_⟩
    rcases List.mem_cons.1 ((Outcome.calls_after_sublist ..).subset hcall) with rfl | hcall
    · apply h.2.1
    · apply hcalls call hcall
  | lookup c schema resume ih =>
    let reply := t.call (client.lookup schema) s
    obtain ⟨hcache, hresult, hcalls⟩ :=
      ih reply.answer c (h.2.2 reply.answer c h.1) reply.token reply.state
    simp only [Process.run, Outcome.cache_after, Outcome.result_after]
    refine ⟨hcache, hresult, fun call hcall => ?_⟩
    rcases List.mem_cons.1 ((Outcome.calls_after_sublist ..).subset hcall) with rfl | hcall
    · apply h.2.1
    · apply hcalls call hcall

/-! ### Steps of tasks -/

/-- A confined task that goes on is confined again, leaves the property true, and has had allowed
calls carried out. -/
theorem Stage.Confined.advance {client : Client σ} {s s' : σ} {c c' : TypeCache}
    {stage stage' : Stage α} {xs : List Exchange} (h : stage.Confined allowed I Q) (hc : I c)
    (hadv : Stage.Advance client s c stage stage' s' c' xs) :
  I c' ∧ stage'.Confined allowed I Q ∧ ∀ x ∈ xs, allowed x.call
  := by
  cases hadv with
  | begin op => exact ⟨(h c hc).cache, (h c hc).stage, by simp⟩
  | resume taken lost => exact ⟨(h.1 c hc).cache, (h.1 c hc).stage, by simp⟩
  | create request resume =>
    refine ⟨hc, ⟨h.2 _, h.2 _⟩, fun x hx => ?_⟩
    obtain rfl := List.mem_singleton.1 hx
    apply h.1
  | lookup schema resume =>
    refine ⟨hc, ⟨h.2 _, h.2 _⟩, fun x hx => ?_⟩
    obtain rfl := List.mem_singleton.1 hx
    apply h.1
  | cutCreate request resume => exact ⟨hc, ⟨h.2 _, h.2 _⟩, by simp⟩
  | cutLookup schema resume => exact ⟨hc, ⟨h.2 _, h.2 _⟩, by simp⟩
  | cutAnswer taken lost => exact ⟨hc, ⟨h.2, h.2⟩, by simp⟩

/-! ### Worlds -/

namespace World

/-- Every registry has its property, and every task is confined to what its registry may do, as
were the calls carried out for it. -/
structure Confined (allowed : Nat → Call → Prop) (I : Nat → TypeCache → Prop) (Q : Nat → α → Prop)
    (w : World σ α) (h : List Event) : Prop where
  caches : ∀ owner, I owner (w.cacheOf owner)
  tasks : ∀ i (t : Task α), w.tasks[i]? = some t →
    t.stage.Confined (allowed t.owner) (I t.owner) (Q i) ∧
      ∀ x ∈ exchangesOf i h, allowed t.owner x.call

theorem cacheOf_set_of_ne {w w' : World σ α} {owner : Nat} {c : TypeCache}
    (h : w'.caches = w.caches.set owner c) {j : Nat} (hj : j ≠ owner) :
  w'.cacheOf j = w.cacheOf j
  := by
  simp [cacheOf, h, List.getD_eq_getElem?_getD, List.getElem?_set_ne hj.symm]

variable {allowed : Nat → Call → Prop} {I : Nat → TypeCache → Prop} {Q : Nat → α → Prop}
  {client : Client σ}

theorem Confined.step {w : World σ α} {h : List Event} (hw : w.Confined allowed I Q h)
    (m : Move) :
  (w.step client m).Confined allowed I Q (h ++ w.carriedOut client m)
  := by
  rcases step_cases client w m with ⟨hw', hnone⟩ | hmove
  · rw [hw', hnone, List.append_nil]
    apply hw
  · obtain ⟨i, owner, stage, stage', s', c', xs, htask, hadv, -, hcaches, htasks, hxs⟩ := hmove
    obtain ⟨hstage, hbefore⟩ := hw.tasks i ⟨owner, stage⟩ htask
    obtain ⟨hc', hstage', hcalls⟩ := hstage.advance (hw.caches owner) hadv
    constructor
    · intro j
      by_cases hj : j = owner
      · subst hj
        rcases cacheOf_set hcaches j with heq | heq
        · rw [heq]
          apply hc'
        · rw [heq]
          apply hw.caches
      · rw [cacheOf_set_of_ne hcaches hj]
        apply hw.caches
    · intro j t hj
      rw [hxs, exchangesOf_append]
      rw [htasks, List.getElem?_set] at hj
      by_cases hij : i = j
      · subst hij
        obtain ⟨hlt, -⟩ := List.getElem?_eq_some_iff.1 htask
        simp only [hlt, if_true, Option.some.injEq] at hj
        obtain rfl := hj
        rw [exchangesOf_map_self]
        refine ⟨hstage', fun x hx => ?_⟩
        rcases List.mem_append.1 hx with hx | hx
        · apply hbefore x hx
        · apply hcalls x hx
      · rw [exchangesOf_map_of_ne hij, List.append_nil]
        apply hw.tasks j t (by simpa [hij] using hj)

/-- Whatever the order of the moves, tasks stay confined to what their registries may do. -/
theorem Confined.run {w : World σ α} (hw : w.Confined allowed I Q []) (moves : List Move) :
  (w.run client moves).Confined allowed I Q (w.history client moves)
  := by
  have hrun : (w.run client moves).Confined allowed I Q ([] ++ w.history client moves) :=
    run_keeps (fun _ _ m h => h.step m) hw moves
  rw [List.nil_append] at hrun
  apply hrun

end World

end WireSchemas.Remote
