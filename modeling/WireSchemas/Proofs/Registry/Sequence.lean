import Mathlib.Logic.Function.Basic
import WireSchemas.Proofs.Registry.Requests
import WireSchemas.Proofs.Remote.Outcome

/-!
# Requests one after the other

Registries that share one remote registry serve requests in sequence.  Each request is carried out
with nothing beside it, under a token of its own, and the next one starts from what it leaves.
What each request keeps, the whole sequence keeps: `Registries.run_keeps`.
-/

namespace WireSchemas

open Remote

variable {n : Nat} {σ α β : Type}

namespace Remote

/-! ### The state that a run leaves -/

/-- A call under a token is carried out or leaves the state as it was. -/
theorem Token.state_call (t : Token) (carryOut : σ → Except Failure β × σ) (s : σ) :
  (t.call carryOut s).state = s ∨ (t.call carryOut s).state = (carryOut s).2
  := by
  rcases t with _ | _ | ⟨_ | k, _ | _ | _⟩ <;> simp [Token.call]

theorem Token.leads_call {client : Client σ} {carryOut : σ → Except Failure β × σ} {s : σ}
    (t : Token) (h : client.Leads s (carryOut s).2) :
  client.Leads s (t.call carryOut s).state
  := by
  rcases t.state_call carryOut s with hs | hs
  · rw [hs]
    apply Relation.ReflTransGen.refl
  · rw [hs]
    apply h

/-- A run leads the remote registry on by calls. -/
theorem Process.leads_run (p : Process α) (client : Client σ) (t : Token) (s : σ) :
  client.Leads s (p.run client t s).state
  := by
  induction p generalizing t s with
  | done c a => apply Relation.ReflTransGen.refl
  | create c request resume ih =>
    simp only [Process.run, Outcome.state_after]
    apply (t.leads_call (client.leads_create request s)).trans (ih _ c _ _)
  | lookup c schema resume ih =>
    simp only [Process.run, Outcome.state_after]
    apply (t.leads_call (client.leads_lookup schema s)).trans (ih _ c _ _)

/-- A call under a token ends as one that is waited for with nothing beside it. -/
theorem Token.exists_turn {client : Client σ} {exchange : Except Failure β → Exchange} (t : Token)
    (carryOut : σ → Except Failure β × σ) (s : σ) (xs : List Exchange) :
  ∃ ys, Turn client carryOut exchange s xs (t.call carryOut s).answer (t.call carryOut s).state ys
  := by
  have now {s : σ} : client.Leads s s := Relation.ReflTransGen.refl
  rcases t with _ | _ | ⟨_ | k, _ | _ | _⟩
  · exact ⟨_, .heard now now⟩
  · exact ⟨_, .dropped now⟩
  · exact ⟨_, .dropped now⟩
  · exact ⟨_, .unheard now now⟩
  · exact ⟨_, .heard now now⟩
  -- the token does not fire yet
  all_goals exact ⟨_, .heard now now⟩

/-- What a process keeps at its stops is true at the end of its run. -/
theorem Process.Keeps.run {client : Client σ} {I : σ → TypeCache → Prop} {Q : Law σ α}
    {p : Process α} {s : σ} {xs : List Exchange} (h : p.Keeps client I Q s xs)
    (hI : ∀ s s' c, client.Leads s s' → I s c → I s' c) (t : Token) :
  I (p.run client t s).state (p.run client t s).cache
  := by
  induction p generalizing t s xs with
  | done c a => apply h.1
  | create c request resume ih =>
    obtain ⟨hc, -, hresume⟩ := h
    obtain ⟨ys, turn⟩ := t.exists_turn (client.create request) s xs
    have hc' := hI _ _ c (t.leads_call (client.leads_create request s)) hc
    simp only [Process.run, Outcome.state_after, Outcome.cache_after]
    apply ih _ c (hresume _ _ ys turn c hc')
  | lookup c schema resume ih =>
    obtain ⟨hc, -, hresume⟩ := h
    obtain ⟨ys, turn⟩ := t.exists_turn (client.lookup schema) s xs
    have hc' := hI _ _ c (t.leads_call (client.leads_lookup schema s)) hc
    simp only [Process.run, Outcome.state_after, Outcome.cache_after]
    apply ih _ c (hresume _ _ ys turn c hc')

end Remote

/-! ### Sequences of requests -/

/-- A job and the token that may cancel it. -/
structure Errand (registries : Nat) extends Job registries where
  token : Token

/-- Several registries over one remote registry, between two requests. -/
structure Registries (n : Nat) (σ : Type) where
  caches : Fin n → TypeCache
  remote : σ

namespace Registries

/-- Registries with empty caches. -/
def start (s : σ) : Registries n σ :=
  ⟨fun _ => .empty, s⟩

variable (client : Client σ) (settings : Fin n → Options)

/-- How an errand ends. -/
def outcome (r : Registries n σ) (e : Errand n) : Outcome σ Response :=
  (e.request.operation (settings e.owner) (r.caches e.owner)).run client e.token r.remote

/-- The registries after an errand. -/
def after (r : Registries n σ) (e : Errand n) : Registries n σ :=
  let out := r.outcome client settings e
  ⟨Function.update r.caches e.owner out.cache, out.state⟩

/-- The registries after a list of errands. -/
def run (r : Registries n σ) (es : List (Errand n)) : Registries n σ :=
  es.foldl (after client settings) r

/-- Errands with their outcomes. -/
def trace (r : Registries n σ) : List (Errand n) → List (Errand n × Outcome σ Response)
  | [] => []
  | e :: es => (e, r.outcome client settings e) :: (r.after client settings e).trace es

variable {client settings} {r : Registries n σ} {es fs : List (Errand n)}

theorem caches_after_self (r : Registries n σ) (e : Errand n) :
  (r.after client settings e).caches e.owner = (r.outcome client settings e).cache
  := Function.update_self ..

theorem caches_after_of_ne (r : Registries n σ) {e : Errand n} {owner : Fin n}
    (h : owner ≠ e.owner) :
  (r.after client settings e).caches owner = r.caches owner
  := Function.update_of_ne h ..

theorem after_eq_self {e : Errand n}
    (hcache : (r.outcome client settings e).cache = r.caches e.owner)
    (hstate : (r.outcome client settings e).state = r.remote) :
  r.after client settings e = r
  := by
  simp only [after, hcache, hstate, Function.update_eq_self]

theorem run_append :
  r.run client settings (es ++ fs) = (r.run client settings es).run client settings fs
  := List.foldl_append

theorem trace_append :
  r.trace client settings (es ++ fs) =
    r.trace client settings es ++ (r.run client settings es).trace client settings fs
  := by
  induction es generalizing r with
  | nil => rfl
  | cons e es ih =>
    rw [List.cons_append, trace, trace, ih, List.cons_append]
    rfl

/-- Every entry of a trace is of one of the errands. -/
theorem mem_of_mem_trace {x : Errand n × Outcome σ Response}
    (hx : x ∈ r.trace client settings es) :
  x.1 ∈ es
  := by
  induction es generalizing r with
  | nil => cases hx
  | cons e es ih =>
    rcases List.mem_cons.1 hx with rfl | hx
    · apply List.mem_cons_self
    · apply List.mem_cons_of_mem e (ih hx)

/-- What is kept by every errand whose outcome is as it should be is kept by a list of them. -/
theorem run_keeps {P : Registries n σ → Prop} {Q : Errand n × Outcome σ Response → Prop}
    (hstep : ∀ r e, P r → Q (e, r.outcome client settings e) → P (r.after client settings e))
    (hr : P r) (hes : ∀ x ∈ r.trace client settings es, Q x) :
  P (r.run client settings es)
  := by
  induction es generalizing r with
  | nil => apply hr
  | cons e es ih =>
    obtain ⟨he, hes⟩ := List.forall_mem_cons.1 hes
    apply ih (hstep r e hr he) hes

theorem leads_after (r : Registries n σ) (e : Errand n) :
  client.Leads r.remote (r.after client settings e).remote
  := by
  apply Process.leads_run

/-- Errands lead the remote registry on by calls. -/
theorem leads_run (r : Registries n σ) (es : List (Errand n)) :
  client.Leads r.remote (r.run client settings es).remote
  := by
  apply run_keeps (P := fun r' => client.Leads r.remote r'.remote) (Q := fun _ => True)
  · intro r' e hr _
    apply hr.trans (leads_after r' e)
  · apply Relation.ReflTransGen.refl
  · simp

end Registries

end WireSchemas
