import WireSchemas.Remote.Client

/-!
# Interleavings

Several operations in progress share one remote registry; those of one registry also share its
type cache.  A move lets one task go one step: to its first call, or through the carrying out of
its call, or from the answer to its next call.  Any list of moves is an interleaving.
-/

namespace WireSchemas.Remote

/-- Where an operation stands. -/
inductive Stage (α : Type) where
  /-- Not begun. -/
  | fresh (op : Operation α)
  /-- Waiting for a revision. -/
  | creating (request : CreateRequest) (resume : Except Failure Revision → Operation α)
  /-- Waiting for a look-up. -/
  | lookingUp (schema : SchemaInfo)
      (resume : Except Failure (Option StoredSchema) → Operation α)
  /-- The call is over: what is done with its answer, and what if the answer is lost. -/
  | answered (taken lost : Operation α)
  | finished (result : α)

/-- The stage of a process at a stop. -/
def Process.stage {α : Type} : Process α → Stage α
  | .done _ a => .finished a
  | .create _ request resume => .creating request resume
  | .lookup _ schema resume => .lookingUp schema resume

/-- The call that a process has started and waits for. -/
def Process.calls {α : Type} : Process α → List Call
  | .done _ _ => []
  | .create _ request _ => [.create request]
  | .lookup _ schema _ => [.lookup schema]

/-- An operation of one of several registries. -/
structure Task (α : Type) where
  /-- The number of the registry, whose cache the operation uses. -/
  owner : Nat
  stage : Stage α

/-- Registries with their caches, tasks in progress, and the remote registry they share. -/
structure World (σ α : Type) where
  remote : σ
  caches : List TypeCache
  tasks : List (Task α)
  /-- The calls that were started, in order. -/
  calls : List Call

/-- One step of one task, given by its position. -/
inductive Move where
  /-- Begin the task, or go on from the answer it has. -/
  | proceed (task : Nat)
  /-- Carry out the call that the task waits for. -/
  | carryOut (task : Nat)
  /-- Cancel the task at its call, which may be carried out already. -/
  | cancel (task : Nat)
deriving Repr, DecidableEq

namespace World

variable {σ α : Type}

/-- The cache of a registry. -/
def cacheOf (w : World σ α) (owner : Nat) : TypeCache :=
  w.caches.getD owner .empty

/-- A task goes on with an operation until its next stop. -/
def advance (w : World σ α) (i : Nat) (owner : Nat) (op : Operation α) : World σ α :=
  let p := op (w.cacheOf owner)
  { w with
    caches := w.caches.set owner p.cache
    tasks := w.tasks.set i ⟨owner, p.stage⟩
    calls := w.calls ++ p.calls }

/-- A task loses the answer to its call. -/
def cut (w : World σ α) (i : Nat) (owner : Nat) (lost : Operation α) : World σ α :=
  { w with tasks := w.tasks.set i ⟨owner, .answered lost lost⟩ }

/-- The world after a move; a move that does not fit the stage of its task changes nothing. -/
def step (client : Client σ) (w : World σ α) : Move → World σ α
  | .proceed i =>
    match w.tasks[i]? with
    | some ⟨owner, .fresh op⟩ => w.advance i owner op
    | some ⟨owner, .answered taken _⟩ => w.advance i owner taken
    | _ => w
  | .carryOut i =>
    match w.tasks[i]? with
    | some ⟨owner, .creating request resume⟩ =>
      let (a, remote) := client.create request w.remote
      { w with
        remote
        tasks := w.tasks.set i ⟨owner, .answered (resume a) (resume (.error .cancelled))⟩ }
    | some ⟨owner, .lookingUp schema resume⟩ =>
      let (a, remote) := client.lookup schema w.remote
      { w with
        remote
        tasks := w.tasks.set i ⟨owner, .answered (resume a) (resume (.error .cancelled))⟩ }
    | _ => w
  | .cancel i =>
    match w.tasks[i]? with
    | some ⟨owner, .creating _ resume⟩ => w.cut i owner (resume (.error .cancelled))
    | some ⟨owner, .lookingUp _ resume⟩ => w.cut i owner (resume (.error .cancelled))
    | some ⟨owner, .answered _ lost⟩ => w.cut i owner lost
    | _ => w

/-- The world after a list of moves. -/
def run (client : Client σ) (w : World σ α) (moves : List Move) : World σ α :=
  moves.foldl (step client) w

/-- The results of the tasks that are finished. -/
def results (w : World σ α) : List α :=
  w.tasks.filterMap fun t =>
    match t.stage with
    | .finished a => some a
    | _ => none

end World

/-- The moves by which tasks take turns: all begin, then in each round every task has its call
carried out and goes on to the next. -/
def turns (tasks rounds : Nat) : List Move :=
  (List.range tasks).map .proceed ++
    (List.replicate rounds
      ((List.range tasks).flatMap fun i => [.carryOut i, .proceed i])).flatten

end WireSchemas.Remote
