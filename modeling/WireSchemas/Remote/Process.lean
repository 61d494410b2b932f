import WireSchemas.Failure
import WireSchemas.Remote.Store
import WireSchemas.TypeCache

/-!
# Remote calls as data

An operation of a registry reads and changes the type cache and calls the remote registry now and
then.  Between two calls nothing can happen beside it; at a call it stops, and other operations
may change the cache before it goes on.  A `Process` is an operation at such a stop: the cache as
the operation leaves it, and either the result or the call with what to do on its answer.
-/

namespace WireSchemas.Remote

/-- An operation that is finished or waits for the answer to a call. -/
inductive Process (α : Type) where
  | done (cache : TypeCache) (result : α)
  | create (cache : TypeCache) (request : CreateRequest)
      (resume : Except Failure Revision → TypeCache → Process α)
  | lookup (cache : TypeCache) (schema : SchemaInfo)
      (resume : Except Failure (Option StoredSchema) → TypeCache → Process α)

/-- What is done from the cache as it stands. -/
abbrev Operation (α : Type) := TypeCache → Process α

namespace Process

variable {α β : Type}

/-- The cache as the process leaves it. -/
def cache : Process α → TypeCache
  | done c _ => c
  | create c _ _ => c
  | lookup c _ _ => c

/-- A process followed by an operation on its result. -/
def bind (p : Process α) (next : α → Operation β) : Process β :=
  match p with
  | done c a => next a c
  | create c request resume => .create c request fun answer c' => (resume answer c').bind next
  | lookup c schema resume => .lookup c schema fun answer c' => (resume answer c').bind next

end Process

/-- An operation followed by another on its result, unless it fails. -/
def Operation.andThen {α β : Type} (op : Operation (Except Failure α))
    (next : α → Operation (Except Failure β)) : Operation (Except Failure β) :=
  fun cache => (op cache).bind fun result c =>
    match result with
    | .ok a => next a c
    | .error f => .done c (.error f)

end WireSchemas.Remote
