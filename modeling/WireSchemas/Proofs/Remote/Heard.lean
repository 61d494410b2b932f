import WireSchemas.Proofs.Remote.Outcome

/-!
# What runs hear

A run hears an answer to each call that it starts, and to those that it gives up before they are
started.  Every failure it hears is one of its client, or the cancellation of the call.
-/

namespace WireSchemas.Remote

variable {σ α β : Type}

/-- The call of an exchange. -/
def Exchange.call : Exchange → Call
  | created request _ => .create request
  | found schema _ => .lookup schema

/-- The end of a run in which nothing is called and nothing changes. -/
def Outcome.unmoved (result : α) (cache : TypeCache) (s : σ) (t : Token) : Outcome σ α :=
  ⟨result, cache, s, t, []⟩

/-! ### Calls -/

theorem Outcome.calls_after_sublist (o : Outcome σ α) (started : Bool) (call : Call) :
  (o.after started call).calls.Sublist (call :: o.calls)
  := by
  cases started with
  | true => apply List.Sublist.refl
  | false => apply List.sublist_cons_self

/-- The calls that are started are among those that are answered, in the same order. -/
theorem Process.calls_run_sublist (p : Process α) (client : Client σ) (t : Token) (s : σ) :
  (p.run client t s).calls.Sublist ((p.heard client t s).map Exchange.call)
  := by
  induction p generalizing t s with
  | done c a => apply List.Sublist.refl
  | create c request resume ih =>
    apply (Outcome.calls_after_sublist _ _ _).trans
    apply (ih _ c _ _).cons_cons
  | lookup c schema resume ih =>
    apply (Outcome.calls_after_sublist _ _ _).trans
    apply (ih _ c _ _).cons_cons

/-! ### Failures -/

/-- A client that fails only with failures of the remote registry. -/
structure Client.FailsRemotely (client : Client σ) : Prop where
  create : ∀ request s f, (client.create request s).1 = .error f → ∃ text, f = .remote text
  lookup : ∀ schema s f, (client.lookup schema s).1 = .error f → ∃ text, f = .remote text

/-- A store does not fail. -/
theorem Client.failsRemotely_inMemory (clock : Nat → Timestamp) :
  (inMemory clock).FailsRemotely
  := by
  constructor
  · intro request s f hf
    cases hf
  · intro schema s f hf
    cases hf

/-- A call fails as the client does, or by its cancellation. -/
theorem Token.failure_call {t : Token} {carryOut : σ → Except Failure β × σ} {s : σ} {f : Failure}
    (h : (t.call carryOut s).answer = .error f) :
  f = .cancelled ∨ (carryOut s).1 = .error f
  := by
  rcases t with _ | _ | ⟨_ | n, _ | _ | _⟩ <;> simp_all [Token.call]

theorem Exchange.failure?_created {request : CreateRequest} {answer : Except Failure Revision}
    {f : Failure} :
  (created request answer).failure? = some f ↔ answer = .error f
  := by
  cases answer <;> simp [failure?]

theorem Exchange.failure?_found {schema : SchemaInfo}
    {answer : Except Failure (Option StoredSchema)} {f : Failure} :
  (found schema answer).failure? = some f ↔ answer = .error f
  := by
  cases answer <;> simp [failure?]

/-- A run with a client that fails remotely hears no failures but those and cancellations. -/
theorem Process.failure_heard {client : Client σ} (h : client.FailsRemotely) {p : Process α}
    {t : Token} {s : σ} {x : Exchange} (hx : x ∈ p.heard client t s) {f : Failure}
    (hf : x.failure? = some f) :
  f = .cancelled ∨ ∃ text, f = .remote text
  := by
  induction p generalizing t s with
  | done c a => cases hx
  | create c request resume ih =>
    rcases List.mem_cons.1 hx with rfl | hx
    · rw [Exchange.failure?_created] at hf
      apply (Token.failure_call hf).imp_right (h.create request s f)
    · apply ih _ c hx
  | lookup c schema resume ih =>
    rcases List.mem_cons.1 hx with rfl | hx
    · rw [Exchange.failure?_found] at hf
      apply (Token.failure_call hf).imp_right (h.lookup schema s f)
    · apply ih _ c hx

end WireSchemas.Remote
