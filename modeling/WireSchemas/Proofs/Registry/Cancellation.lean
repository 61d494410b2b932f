import WireSchemas.Proofs.Registry.Failures

/-!
# Requests that are cancelled beforehand

Under a token that has fired no call is started, and the remote registry stays as it is.  So a
request under such a token differs from the same request under a live one only where that one
calls: there it is cancelled, and leaves no trace.
-/

namespace WireSchemas

open Remote

variable {σ α : Type}

namespace Remote.Process

theorem calls_run_cancelled (p : Process α) (client : Client σ) (s : σ) :
  (p.run client .cancelled s).calls = []
  := by
  induction p with
  | done c a => rfl
  | create c request resume ih => apply ih
  | lookup c schema resume ih => apply ih

theorem state_run_cancelled (p : Process α) (client : Client σ) (s : σ) :
  (p.run client .cancelled s).state = s
  := by
  induction p with
  | done c a => rfl
  | create c request resume ih => apply ih
  | lookup c schema resume ih => apply ih

variable {p : Process α} {client : Client σ} {s : σ}

/-- A process that calls for nothing under a live token is finished. -/
theorem eq_done_of_calls_eq_nil (h : (p.run client .live s).calls = []) :
  ∃ c a, p = .done c a
  := by
  cases p with
  | done c a => exact ⟨c, a, rfl⟩
  | create c request resume => cases h
  | lookup c schema resume => cases h

/-- A process that calls under a live token hears of its cancellation under one that has fired. -/
theorem exists_cancelled_of_calls_ne_nil (h : (p.run client .live s).calls ≠ []) :
  ∃ x ∈ p.heard client .cancelled s, x.failure? = some .cancelled
  := by
  cases p with
  | done c a => cases h rfl
  | create c request resume => exact ⟨_, List.mem_cons_self, rfl⟩
  | lookup c schema resume => exact ⟨_, List.mem_cons_self, rfl⟩

end Remote.Process

/-- A token that has fired takes the place of calls and of nothing else.  A request that makes no
call under a live token has the same end under one that has fired; any other request is cancelled
then.  Nothing is called either way, and a request that is cancelled leaves its registry, the
remote registry and the headers as they were. -/
theorem cancellation_replaces_calls (o : Options) (client : Client σ) (s : σ) (c : TypeCache)
    (q : Request) :
  let call := q.operation o c
  let live := call.run client .live s
  let cancelled := call.run client .cancelled s
  (live.calls = [] → cancelled.result = live.result ∧ cancelled.cache = live.cache ∧
    cancelled.state = live.state) ∧
  (live.calls ≠ [] → cancelled.result.failure? = some .cancelled) ∧
  cancelled.calls = [] ∧
  (cancelled.result.failure? = some .cancelled → cancelled.cache = c ∧ cancelled.state = s ∧
    cancelled.result.headers? = q.headers?)
  := by
  intro call live cancelled
  have hend := (Request.ensures_traceless o q c).run client .cancelled s
  refine ⟨?_, ?_, call.calls_run_cancelled client s, ?_⟩
  · intro hcalls
    obtain ⟨c', response, hdone⟩ := Process.eq_done_of_calls_eq_nil hcalls
    simp [live, cancelled, hdone, Process.run]
  · intro hcalls
    obtain ⟨x, hx, hf⟩ := Process.exists_cancelled_of_calls_ne_nil hcalls
    apply hend.passes x hx _ hf
  · intro hf
    obtain ⟨hcache, hheaders⟩ := hend.unchanged .cancelled hf (by simp)
    exact ⟨hcache, call.state_run_cancelled client s, hheaders⟩

/-- A registry that may not register is asked about a type that it knows in one format.  What it
refuses it refuses under a token that has fired as well, and what it would look up is cancelled. -/
theorem cancellation_spares_refusals :
  let type : MessageType := ⟨"Identity", "UserRegistered"⟩
  let cache := TypeCache.empty.bind type ⟨"users", .protobuf⟩
  let out (q : Request) :=
    (q.operation ⟨.fullName, false⟩ cache).run (.inMemory fun _ => .epoch) .cancelled .empty
  (out (.findOrRegister ⟨"", .json⟩ type)).result.failure? = some (.notRegistered type) ∧
    (out (.list type .unspecified)).result.failure? = some .cancelled ∧
    (out (.list type .unspecified)).cache = cache
  := by
  intro type cache out
  obtain ⟨hrefused, -⟩ := cancellation_replaces_calls ⟨.fullName, false⟩
    (.inMemory fun _ => .epoch) .empty cache (.findOrRegister ⟨"", .json⟩ type)
  obtain ⟨-, hlist, -, hunchanged⟩ := cancellation_replaces_calls ⟨.fullName, false⟩
    (.inMemory fun _ => .epoch) .empty cache (.list type .unspecified)
  have hsame := (hrefused (by decide)).1
  have hcancelled := hlist (by decide)
  exact ⟨(congrArg Response.failure? hsame).trans (by decide), hcancelled,
    (hunchanged hcancelled).1⟩

end WireSchemas
