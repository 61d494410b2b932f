import WireSchemas.Remote.Process

/-!
# Clients and runs

A client answers the calls of an operation and keeps a state of its own.  The cancellation token
of an operation may fire before it, or during one of its calls: the call may then never have been
carried out, or its answer may be lost, or the answer may still be taken.  A call that is made
with a fired token is not started.  `Process.run` carries an operation out on its own.
-/

namespace WireSchemas.Remote

/-- A remote registry with states `σ`. -/
structure Client (σ : Type) where
  create : CreateRequest → σ → Except Failure Revision × σ
  lookup : SchemaInfo → σ → Except Failure (Option StoredSchema) × σ

/-- A call of the remote registry. -/
inductive Call where
  | create (request : CreateRequest)
  | lookup (schema : SchemaInfo)
deriving Repr, DecidableEq

/-- Whether a call creates or updates a schema. -/
def Call.isCreate : Call → Bool
  | create _ => true
  | lookup _ => false

/-- How a call ends during which the token fires. -/
inductive Ending where
  /-- The call is started and never carried out. -/
  | abandoned
  /-- The call is carried out and its answer is lost. -/
  | unheard
  /-- The call is answered at once. -/
  | answered
deriving Repr, DecidableEq

/-- A cancellation token. -/
inductive Token where
  /-- Never fires. -/
  | live
  /-- Has fired. -/
  | cancelled
  /-- Fires during the call after a number of undisturbed ones. -/
  | firing (undisturbed : Nat) (ending : Ending)
deriving Repr, DecidableEq

/-- What became of a call. -/
structure Reply (σ β : Type) where
  answer : Except Failure β
  state : σ
  token : Token
  /-- Whether the call was started. -/
  started : Bool

/-- A call under a token. -/
def Token.call {σ β : Type} (t : Token) (carryOut : σ → Except Failure β × σ) (s : σ) :
    Reply σ β :=
  match t with
  | .live => let (a, s') := carryOut s; ⟨a, s', .live, true⟩
  | .cancelled => ⟨.error .cancelled, s, .cancelled, false⟩
  | .firing (n + 1) ending => let (a, s') := carryOut s; ⟨a, s', .firing n ending, true⟩
  | .firing 0 .abandoned => ⟨.error .cancelled, s, .cancelled, true⟩
  | .firing 0 .unheard => ⟨.error .cancelled, (carryOut s).2, .cancelled, true⟩
  | .firing 0 .answered => let (a, s') := carryOut s; ⟨a, s', .cancelled, true⟩

/-- The end of a run. -/
structure Outcome (σ α : Type) where
  result : α
  cache : TypeCache
  state : σ
  token : Token
  /-- The calls that were started, in order. -/
  calls : List Call

/-- An outcome with one more call in front if it was started. -/
def Outcome.after {σ α : Type} (o : Outcome σ α) (started : Bool) (call : Call) : Outcome σ α :=
  if started then { o with calls := call :: o.calls } else o

/-- An operation carried out with nothing beside it. -/
def Process.run {σ α : Type} (client : Client σ) : Process α → Token → σ → Outcome σ α
  | .done c a, t, s => ⟨a, c, s, t, []⟩
  | .create c request resume, t, s =>
    let r := t.call (client.create request) s
    ((resume r.answer c).run client r.token r.state).after r.started (.create request)
  | .lookup c schema resume, t, s =>
    let r := t.call (client.lookup schema) s
    ((resume r.answer c).run client r.token r.state).after r.started (.lookup schema)

/-! ### Clients -/

namespace Client

/-- A store behind a clock that is read once for each revision. -/
def inMemory (clock : Nat → Timestamp) : Client Store where
  create request s :=
    let now := clock s.creates
    (.ok (s.nextRevision now request), s.create now request)
  lookup schema s := (.ok (s.latest? schema), s)

/-- A client whose every call fails with the same text. -/
def outage {σ : Type} (text : String) : Client σ where
  create _ s := (.error (.remote text), s)
  lookup _ s := (.error (.remote text), s)

/-- Answers laid out beforehand. -/
structure Script where
  creates : List (Except Failure Revision)
  lookups : List (Except Failure (Option StoredSchema))

/-- The next of a list of answers. -/
def nextAnswer {β : Type} : List (Except Failure β) → Except Failure β × List (Except Failure β)
  | [] => (.error (.remote "script exhausted"), [])
  | a :: rest => (a, rest)

/-- A client that gives the answers of a script one after the other. -/
def scripted : Client Script where
  create _ s :=
    let (a, rest) := nextAnswer s.creates
    (a, { s with creates := rest })
  lookup _ s :=
    let (a, rest) := nextAnswer s.lookups
    (a, { s with lookups := rest })

/-- A client of a part of a larger state. -/
def onPart {σ τ : Type} (client : Client τ) (get : σ → τ) (set : τ → σ → σ) : Client σ where
  create request s :=
    let (a, part) := client.create request (get s)
    (a, set part s)
  lookup schema s :=
    let (a, part) := client.lookup schema (get s)
    (a, set part s)

end Client

end WireSchemas.Remote
