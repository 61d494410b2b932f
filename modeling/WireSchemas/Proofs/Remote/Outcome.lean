import WireSchemas.Proofs.Remote.History

/-!
# What operations come to

`Process.Ensures` judges an operation that has the cache to itself: whatever its calls are
answered, it ends with answers, a cache and a result that satisfy a condition.  A run hears some
answers, from whichever client and under whichever token, so what a process ensures holds at the
end of each of its runs: `Process.Ensures.run`.
-/

namespace WireSchemas.Remote

variable {σ α β : Type}

/-- The failure that a call was answered with, if it failed. -/
def Exchange.failure? : Exchange → Option Failure
  | created _ (.error f) => some f
  | found _ (.error f) => some f
  | created _ (.ok _) => none
  | found _ (.ok _) => none

/-- The calls of a run with the answers that the operation takes.  A call that is given up is
answered by its cancellation. -/
def Process.heard (client : Client σ) : Process α → Token → σ → List Exchange
  | .done _ _, _, _ => []
  | .create c request resume, t, s =>
    let r := t.call (client.create request) s
    .created request r.answer :: (resume r.answer c).heard client r.token r.state
  | .lookup c schema resume, t, s =>
    let r := t.call (client.lookup schema) s
    .found schema r.answer :: (resume r.answer c).heard client r.token r.state

/-- Whatever the calls of a process are answered, it ends with answers, a cache and a result that
satisfy `P`, if nothing else changes the cache meanwhile. -/
def Process.Ensures (P : List Exchange → TypeCache → α → Prop) : Process α → Prop
  | .done c a => P [] c a
  | .create c request resume =>
    ∀ answer, (resume answer c).Ensures fun xs => P (.created request answer :: xs)
  | .lookup c schema resume =>
    ∀ answer, (resume answer c).Ensures fun xs => P (.found schema answer :: xs)

/-! ### Runs -/

@[simp]
theorem Outcome.cache_after (o : Outcome σ α) (started : Bool) (call : Call) :
  (o.after started call).cache = o.cache
  := by
  cases started <;> rfl

@[simp]
theorem Outcome.result_after (o : Outcome σ α) (started : Bool) (call : Call) :
  (o.after started call).result = o.result
  := by
  cases started <;> rfl

@[simp]
theorem Outcome.state_after (o : Outcome σ α) (started : Bool) (call : Call) :
  (o.after started call).state = o.state
  := by
  cases started <;> rfl

/-- What a process ensures holds at the end of a run, under every client and every token. -/
theorem Process.Ensures.run {P : List Exchange → TypeCache → α → Prop} {p : Process α}
    (h : p.Ensures P) (client : Client σ) (t : Token) (s : σ) :
  P (p.heard client t s) (p.run client t s).cache (p.run client t s).result
  := by
  induction p generalizing P t s with
  | done c a => apply h
  | create c request resume ih =>
    simp only [Process.run, Outcome.cache_after, Outcome.result_after]
    apply ih _ c (h _)
  | lookup c schema resume ih =>
    simp only [Process.run, Outcome.cache_after, Outcome.result_after]
    apply ih _ c (h _)

/-! ### Other forms of a result -/

/-- An outcome with another form of its result. -/
def Outcome.map (f : α → β) (o : Outcome σ α) : Outcome σ β :=
  ⟨f o.result, o.cache, o.state, o.token, o.calls⟩

theorem Outcome.map_after (f : α → β) (o : Outcome σ α) (started : Bool) (call : Call) :
  (o.after started call).map f = (o.map f).after started call
  := by
  cases started <;> rfl

/-- A process that only gives its result another form runs as before. -/
theorem Process.run_bind_done (p : Process α) (f : α → β) (client : Client σ) (t : Token) (s : σ) :
  (p.bind fun a c => .done c (f a)).run client t s = (p.run client t s).map f
  := by
  induction p generalizing t s with
  | done c a => rfl
  | create c request resume ih => simp only [Process.bind, Process.run, ih, Outcome.map_after]
  | lookup c schema resume ih => simp only [Process.bind, Process.run, ih, Outcome.map_after]

theorem Process.heard_bind_done (p : Process α) (f : α → β) (client : Client σ) (t : Token)
    (s : σ) :
  (p.bind fun a c => .done c (f a)).heard client t s = p.heard client t s
  := by
  induction p generalizing t s with
  | done c a => rfl
  | create c request resume ih => simp only [Process.bind, Process.heard, ih]
  | lookup c schema resume ih => simp only [Process.bind, Process.heard, ih]

/-! ### Operations in sequence -/

variable {P Q : List Exchange → TypeCache → α → Prop}
  {R : List Exchange → TypeCache → β → Prop}

theorem Process.Ensures.imp {p : Process α} (h : p.Ensures P)
    (hPQ : ∀ xs c a, P xs c a → Q xs c a) :
  p.Ensures Q
  := by
  induction p generalizing P Q with
  | done c a => apply hPQ _ _ _ h
  | create c request resume ih =>
    intro answer
    apply ih answer c (h answer) fun xs => hPQ _
  | lookup c schema resume ih =>
    intro answer
    apply ih answer c (h answer) fun xs => hPQ _

/-- A process followed by an operation ensures what the operation does after each end of the
process. -/
theorem Process.Ensures.bind {p : Process α} {next : α → Operation β} (h : p.Ensures P)
    (hnext : ∀ xs c a, P xs c a → (next a c).Ensures fun ys => R (xs ++ ys)) :
  (p.bind next).Ensures R
  := by
  induction p generalizing P R with
  | done c a => apply hnext _ _ _ h
  | create c request resume ih =>
    intro answer
    apply ih answer c (h answer) fun xs => hnext _
  | lookup c schema resume ih =>
    intro answer
    apply ih answer c (h answer) fun xs => hnext _

/-- Another form of a result, and what is ensured of it. -/
theorem Process.Ensures.bind_done {p : Process α} (h : p.Ensures P) (f : α → β)
    (hPR : ∀ xs c a, P xs c a → R xs c (f a)) :
  (p.bind fun a c => .done c (f a)).Ensures R
  := by
  apply h.bind
  intro xs c a ha
  simpa [Process.Ensures] using hPR xs c a ha

theorem Operation.ensures_andThen {op : Operation (Except Failure α)}
    {next : α → Operation (Except Failure β)} {c : TypeCache}
    {P : List Exchange → TypeCache → Except Failure α → Prop}
    {Q : List Exchange → TypeCache → Except Failure β → Prop} (h : (op c).Ensures P)
    (herror : ∀ xs c f, P xs c (.error f) → Q xs c (.error f))
    (hok : ∀ xs c a, P xs c (.ok a) → (next a c).Ensures fun ys => Q (xs ++ ys)) :
  (op.andThen next c).Ensures Q
  := by
  apply h.bind
  intro xs c result hr
  cases result with
  | error f => simpa [Process.Ensures] using herror xs c f hr
  | ok a => apply hok xs c a hr

end WireSchemas.Remote
