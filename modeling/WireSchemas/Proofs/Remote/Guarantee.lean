import WireSchemas.Proofs.Remote.History
import WireSchemas.Proofs.Remote.Store

/-!
# What operations guarantee

`Process.Keeps` judges an operation on its own.  It relies on no more than that a property of the
remote registry and of the cache holds whenever the operation goes on, and it asks that the
operation leaves the property true at each of its stops and obeys a law on the calls carried out
for it and on its result.  When every task of a world keeps its part, all interleavings keep the
property and the laws: `World.Kept.run`.
-/

namespace WireSchemas.Remote

variable {σ α β : Type}

/-- What holds, at a state, of the calls carried out for a task and of its result once it has
one. -/
abbrev Law (σ α : Type) := σ → List Exchange → Option α → Prop

/-- A law that what happens beside the task does not break, and that outlives the result. -/
structure Law.Lasting (client : Client σ) (Q : Law σ α) : Prop where
  mono : ∀ s s' xs r, client.Leads s s' → Q s xs r → Q s' xs r
  forget : ∀ s xs a, Q s xs (some a) → Q s xs none

/-- How a call that is waited for at state `s` after the exchanges `xs` ends: with an answer, the
state at which the answer is taken, and the exchanges by then. -/
inductive Turn (client : Client σ) (carryOut : σ → Except Failure β × σ)
    (exchange : Except Failure β → Exchange) (s : σ) (xs : List Exchange) :
    Except Failure β → σ → List Exchange → Prop
  /-- The call is carried out and its answer taken. -/
  | heard {s₁ s₂ : σ} (before : client.Leads s s₁) (after : client.Leads (carryOut s₁).2 s₂) :
    Turn client carryOut exchange s xs (carryOut s₁).1 s₂ (xs ++ [exchange (carryOut s₁).1])
  /-- The call is carried out and its answer lost. -/
  | unheard {s₁ s₂ : σ} (before : client.Leads s s₁) (after : client.Leads (carryOut s₁).2 s₂) :
    Turn client carryOut exchange s xs (.error .cancelled) s₂ (xs ++ [exchange (carryOut s₁).1])
  /-- The call is never carried out. -/
  | dropped {s₁ : σ} (before : client.Leads s s₁) :
    Turn client carryOut exchange s xs (.error .cancelled) s₁ xs

theorem Turn.mono {client : Client σ} {carryOut : σ → Except Failure β × σ}
    {exchange : Except Failure β → Exchange} {s s' : σ} {xs : List Exchange}
    {a : Except Failure β} {t : σ} {ys : List Exchange} (hl : client.Leads s s')
    (h : Turn client carryOut exchange s' xs a t ys) :
  Turn client carryOut exchange s xs a t ys
  := by
  cases h with
  | heard before after => exact .heard (hl.trans before) after
  | unheard before after => exact .unheard (hl.trans before) after
  | dropped before => exact .dropped (hl.trans before)

variable (client : Client σ) (I : σ → TypeCache → Prop) (Q : Law σ α)

/-- A process leaves the property true at its stops and obeys the law, if the property holds
whenever it goes on. -/
def Process.Keeps : Process α → σ → List Exchange → Prop
  | .done c a, s, xs => I s c ∧ Q s xs (some a)
  | .create c request resume, s, xs =>
    I s c ∧ Q s xs none ∧
      ∀ a t ys, Turn client (client.create request) (.created request) s xs a t ys →
        ∀ c', I t c' → (resume a c').Keeps t ys
  | .lookup c schema resume, s, xs =>
    I s c ∧ Q s xs none ∧
      ∀ a t ys, Turn client (client.lookup schema) (.found schema) s xs a t ys →
        ∀ c', I t c' → (resume a c').Keeps t ys

/-- A task that stands at a stage does so as well when it goes on. -/
def Stage.Keeps : Stage α → σ → List Exchange → Prop
  | .fresh op, s, xs =>
    Q s xs none ∧ ∀ t c, client.Leads s t → I t c → (op c).Keeps client I Q t xs
  | .creating request resume, s, xs =>
    Q s xs none ∧
      ∀ a t ys, Turn client (client.create request) (.created request) s xs a t ys →
        ∀ c', I t c' → (resume a c').Keeps client I Q t ys
  | .lookingUp schema resume, s, xs =>
    Q s xs none ∧
      ∀ a t ys, Turn client (client.lookup schema) (.found schema) s xs a t ys →
        ∀ c', I t c' → (resume a c').Keeps client I Q t ys
  | .answered taken lost, s, xs =>
    Q s xs none ∧ ∀ t c, client.Leads s t → I t c →
      (taken c).Keeps client I Q t xs ∧ (lost c).Keeps client I Q t xs
  | .finished a, s, xs => Q s xs (some a)

variable {client I Q}

/-! ### Operations in sequence -/

/-- A process followed by an operation keeps what the operation keeps after each of its results. -/
theorem Process.Keeps.bind {R : Law σ β} {p : Process α} {next : α → Operation β} {s : σ}
    {xs : List Exchange} (h : p.Keeps client I Q s xs) (hstop : ∀ t ys, Q t ys none → R t ys none)
    (hnext : ∀ t c ys a, I t c → Q t ys (some a) → (next a c).Keeps client I R t ys) :
  (p.bind next).Keeps client I R s xs
  := by
  induction p generalizing s xs with
  | done c a => apply hnext s c xs a h.1 h.2
  | create c request resume ih =>
    refine ⟨h.1, hstop s xs h.2.1, ?_⟩
    intro a t ys turn c' hc'
    apply ih a c' (h.2.2 a t ys turn c' hc')
  | lookup c schema resume ih =>
    refine ⟨h.1, hstop s xs h.2.1, ?_⟩
    intro a t ys turn c' hc'
    apply ih a c' (h.2.2 a t ys turn c' hc')

/-- A weaker law is kept as well. -/
theorem Process.Keeps.imp {R : Law σ α} {p : Process α} {s : σ} {xs : List Exchange}
    (h : p.Keeps client I Q s xs) (hR : ∀ t ys r, Q t ys r → R t ys r) :
  p.Keeps client I R s xs
  := by
  induction p generalizing s xs with
  | done c a => exact ⟨h.1, hR s xs (some a) h.2⟩
  | create c request resume ih =>
    refine ⟨h.1, hR s xs none h.2.1, ?_⟩
    intro a t ys turn c' hc'
    apply ih a c' (h.2.2 a t ys turn c' hc')
  | lookup c schema resume ih =>
    refine ⟨h.1, hR s xs none h.2.1, ?_⟩
    intro a t ys turn c' hc'
    apply ih a c' (h.2.2 a t ys turn c' hc')

theorem Process.Keeps.cache {p : Process α} {s : σ} {xs : List Exchange}
    (h : p.Keeps client I Q s xs) :
  I s p.cache
  := by
  cases p <;> apply h.1

theorem Process.Keeps.stage {p : Process α} {s : σ} {xs : List Exchange}
    (h : p.Keeps client I Q s xs) :
  p.stage.Keeps client I Q s xs
  := by
  cases p <;> apply h.2

/-- The law that a property of the exchanges holds at all times, and another when the result is no
failure. -/
def Law.onSuccess (always : List Exchange → Prop) (success : σ → List Exchange → α → Prop) :
    Law σ (Except Failure α) :=
  fun s xs result => always xs ∧ ∀ a, result = some (.ok a) → success s xs a

theorem Law.onSuccess_error {always : List Exchange → Prop}
    {success : σ → List Exchange → α → Prop} {s : σ} {xs : List Exchange} {f : Failure}
    (h : always xs) :
  Law.onSuccess always success s xs (some (.error f))
  := ⟨h, by simp⟩

theorem Law.onSuccess_none {always : List Exchange → Prop}
    {success : σ → List Exchange → α → Prop} {s : σ} {xs : List Exchange} (h : always xs) :
  Law.onSuccess always success s xs none
  := ⟨h, by simp⟩

theorem Law.onSuccess_ok {always : List Exchange → Prop}
    {success : σ → List Exchange → α → Prop} {s : σ} {xs : List Exchange} {a : α} :
  Law.onSuccess always success s xs (some (.ok a)) ↔ always xs ∧ success s xs a
  := by
  simp [onSuccess]

theorem Law.onSuccess_imp {always always' : List Exchange → Prop}
    {success success' : σ → List Exchange → α → Prop} {s : σ} {xs : List Exchange}
    {r : Option (Except Failure α)} (h : Law.onSuccess always success s xs r)
    (halways : always xs → always' xs) (hsuccess : ∀ a, success s xs a → success' s xs a) :
  Law.onSuccess always' success' s xs r
  := ⟨halways h.1, fun a ha => hsuccess a (h.2 a ha)⟩

/-- An operation followed by another unless it fails keeps what the other keeps after each of its
successes. -/
theorem Operation.keeps_andThen {op : Operation (Except Failure α)}
    {next : α → Operation (Except Failure β)} {always always' : List Exchange → Prop}
    {success : σ → List Exchange → α → Prop} {success' : σ → List Exchange → β → Prop} {s : σ}
    {xs : List Exchange} {c : TypeCache}
    (h : (op c).Keeps client I (.onSuccess always success) s xs)
    (halways : ∀ ys, always ys → always' ys)
    (hnext : ∀ t c ys a, I t c → always ys → success t ys a →
      (next a c).Keeps client I (.onSuccess always' success') t ys) :
  (op.andThen next c).Keeps client I (.onSuccess always' success') s xs
  := by
  apply Process.Keeps.bind h
  · intro t ys hys
    apply Law.onSuccess_none (halways ys hys.1)
  · intro t c ys result hc hys
    cases result with
    | error f => exact ⟨hc, Law.onSuccess_error (halways ys hys.1)⟩
    | ok a =>
      obtain ⟨ha, hf⟩ := Law.onSuccess_ok.1 hys
      apply hnext t c ys a hc ha hf

/-! ### Stages -/

theorem Process.Keeps.law (hQ : Q.Lasting client) {p : Process α} {s : σ} {xs : List Exchange}
    (h : p.Keeps client I Q s xs) :
  Q s xs none
  := by
  cases p with
  | done c a => apply hQ.forget s xs a h.2
  | create c request resume => apply h.2.1
  | lookup c schema resume => apply h.2.1

/-- The result of a task that is finished. -/
def Stage.result? : Stage α → Option α
  | .finished a => some a
  | _ => none

theorem Stage.Keeps.law {stage : Stage α} {s : σ} {xs : List Exchange}
    (h : stage.Keeps client I Q s xs) :
  Q s xs stage.result?
  := by
  cases stage with
  | finished a => apply h
  | _ => apply h.1

theorem Stage.Keeps.mono {stage : Stage α} {s s' : σ} {xs : List Exchange}
    (hQ : Q.Lasting client) (hl : client.Leads s s') (h : stage.Keeps client I Q s xs) :
  stage.Keeps client I Q s' xs
  := by
  cases stage with
  | fresh op => exact ⟨hQ.mono _ _ _ _ hl h.1, fun t c ht => h.2 t c (hl.trans ht)⟩
  | creating request resume =>
    exact ⟨hQ.mono _ _ _ _ hl h.1, fun a t ys turn => h.2 a t ys (turn.mono hl)⟩
  | lookingUp schema resume =>
    exact ⟨hQ.mono _ _ _ _ hl h.1, fun a t ys turn => h.2 a t ys (turn.mono hl)⟩
  | answered taken lost => exact ⟨hQ.mono _ _ _ _ hl h.1, fun t c ht => h.2 t c (hl.trans ht)⟩
  | finished a => apply hQ.mono _ _ _ _ hl h

theorem Stage.Advance.leads {s s' : σ} {c c' : TypeCache} {stage stage' : Stage α}
    {xs : List Exchange} (h : Stage.Advance client s c stage stage' s' c' xs) :
  client.Leads s s'
  := by
  cases h with
  | create request resume => apply Client.leads_create
  | lookup schema resume => apply Client.leads_lookup
  | _ => apply Relation.ReflTransGen.refl

/-- Moves lead the remote registry on by calls. -/
theorem World.leads_run (w : World σ α) (moves : List Move) :
  client.Leads w.remote (w.run client moves).remote
  := by
  apply run_keeps (P := fun v _ => client.Leads w.remote v.remote) _ (h := []) .refl moves
  intro v h m hv
  rcases step_cases client v m with ⟨heq, -⟩ | hmove
  · rw [heq]
    apply hv
  · obtain ⟨i, owner, stage, stage', s', c', xs, -, hadv, hs', -⟩ := hmove
    rw [hs']
    apply hv.trans hadv.leads

/-- A task that advances keeps the property and its law. -/
theorem Stage.Keeps.advance (hQ : Q.Lasting client)
    (hI : ∀ s s' c, client.Leads s s' → I s c → I s' c) {s s' : σ} {c c' : TypeCache}
    {stage stage' : Stage α} {xs ys : List Exchange}
    (hadv : Stage.Advance client s c stage stage' s' c' ys)
    (h : stage.Keeps client I Q s xs) (hc : I s c) :
  I s' c' ∧ stage'.Keeps client I Q s' (xs ++ ys)
  := by
  have now : client.Leads s s := Relation.ReflTransGen.refl
  cases hadv with
  | begin op =>
    have hp := h.2 s c now hc
    rw [List.append_nil]
    exact ⟨hp.cache, hp.stage⟩
  | resume taken lost =>
    have hp := (h.2 s c now hc).1
    rw [List.append_nil]
    exact ⟨hp.cache, hp.stage⟩
  | create request resume =>
    have hl := client.leads_create request s
    have hc' := hI _ _ _ hl hc
    refine ⟨hc', (h.2 _ _ _ (.heard now .refl) c hc').law hQ, ?_⟩
    intro t c₁ ht hc₁
    exact ⟨h.2 _ _ _ (.heard now ht) c₁ hc₁, h.2 _ _ _ (.unheard now ht) c₁ hc₁⟩
  | lookup schema resume =>
    have hl := client.leads_lookup schema s
    have hc' := hI _ _ _ hl hc
    refine ⟨hc', (h.2 _ _ _ (.heard now .refl) c hc').law hQ, ?_⟩
    intro t c₁ ht hc₁
    exact ⟨h.2 _ _ _ (.heard now ht) c₁ hc₁, h.2 _ _ _ (.unheard now ht) c₁ hc₁⟩
  | cutCreate request resume =>
    rw [List.append_nil]
    refine ⟨hc, h.1, ?_⟩
    intro t c₁ ht hc₁
    exact ⟨h.2 _ _ _ (.dropped ht) c₁ hc₁, h.2 _ _ _ (.dropped ht) c₁ hc₁⟩
  | cutLookup schema resume =>
    rw [List.append_nil]
    refine ⟨hc, h.1, ?_⟩
    intro t c₁ ht hc₁
    exact ⟨h.2 _ _ _ (.dropped ht) c₁ hc₁, h.2 _ _ _ (.dropped ht) c₁ hc₁⟩
  | cutAnswer taken lost =>
    rw [List.append_nil]
    refine ⟨hc, h.1, ?_⟩
    intro t c₁ ht hc₁
    exact ⟨(h.2 t c₁ ht hc₁).2, (h.2 t c₁ ht hc₁).2⟩

/-! ### Worlds -/

namespace World

/-- The property holds of every cache, and every task keeps it and its own law. -/
structure Kept (client : Client σ) (I : σ → TypeCache → Prop) (law : Nat → Law σ α)
    (w : World σ α) (h : List Event) : Prop where
  caches : ∀ owner, I w.remote (w.cacheOf owner)
  tasks : ∀ i (t : Task α), w.tasks[i]? = some t →
    t.stage.Keeps client I (law i) w.remote (exchangesOf i h)

theorem cacheOf_set {w w' : World σ α} {owner : Nat} {c : TypeCache}
    (h : w'.caches = w.caches.set owner c) (j : Nat) :
  w'.cacheOf j = c ∨ w'.cacheOf j = w.cacheOf j
  := by
  simp only [cacheOf, h, List.getD_eq_getElem?_getD, List.getElem?_set]
  grind

variable {law : Nat → Law σ α}

theorem Kept.step (hlaw : ∀ i, (law i).Lasting client)
    (hI : ∀ s s' c, client.Leads s s' → I s c → I s' c) {w : World σ α} {h : List Event}
    (hw : Kept client I law w h) (m : Move) :
  Kept client I law (w.step client m) (h ++ w.carriedOut client m)
  := by
  rcases step_cases client w m with ⟨hw', hnone⟩ | hmove
  · rw [hw', hnone, List.append_nil]
    apply hw
  · obtain ⟨i, owner, stage, stage', s', c', xs, htask, hadv, hs', hcaches, htasks, hxs⟩ := hmove
    have hl : client.Leads w.remote s' := hadv.leads
    obtain ⟨hc', hstage'⟩ :=
      (hw.tasks i ⟨owner, stage⟩ htask).advance (hlaw i) hI hadv (hw.caches owner)
    constructor
    · intro j
      rw [hs']
      rcases cacheOf_set hcaches j with heq | heq
      · rw [heq]
        apply hc'
      · rw [heq]
        apply hI _ _ _ hl (hw.caches j)
    · intro j t hj
      rw [hs', hxs, exchangesOf_append]
      rw [htasks, List.getElem?_set] at hj
      by_cases hij : i = j
      · subst hij
        obtain ⟨hlt, -⟩ := List.getElem?_eq_some_iff.1 htask
        simp only [hlt, if_true, Option.some.injEq] at hj
        obtain rfl := hj
        rw [exchangesOf_map_self]
        apply hstage'
      · rw [exchangesOf_map_of_ne hij, List.append_nil]
        apply (hw.tasks j t (by simpa [hij] using hj)).mono (hlaw j) hl

/-- Whatever the order of the moves, the property and the laws are kept. -/
theorem Kept.run (hlaw : ∀ i, (law i).Lasting client)
    (hI : ∀ s s' c, client.Leads s s' → I s c → I s' c) {w : World σ α}
    (hw : Kept client I law w []) (moves : List Move) :
  Kept client I law (w.run client moves) (w.history client moves)
  := by
  have := run_keeps (P := Kept client I law) (fun _ _ m h => h.step hlaw hI m) hw moves
  simpa using this

end World

end WireSchemas.Remote
