import Mathlib.Data.List.Nodup
import WireSchemas.Proofs.Registry.Reachable
import WireSchemas.Proofs.Remote.Revisions

/-!
# Revisions and records

No revision is lost or made twice: in every interleaving of requests the creations of a schema are
numbered by their versions, every task creates once at most, and the records that are returned are
those of the numbered revisions or of what a look-up found in the store.  What the caches bind has
been created.
-/

namespace WireSchemas

open Remote Resolution

namespace Remote

/-! ### The creators of a schema -/

end Remote

/-! ### Interleavings -/

/-- Whether a request may register a schema and returns its record. -/
def Request.registers : Request → Bool
  | register .. => true
  | findOrRegister .. => true
  | _ => false

/-- Nothing that a task looked up was found. -/
def Missed (xs : List Exchange) : Prop :=
  ∀ schema stored, .found schema (.ok (some stored)) ∉ xs

/-- A registration that found no schema made a revision. -/
theorem Request.Accounts.made {request : Request} {xs : List Exchange} {r : RegisteredSchema}
    (h : request.Accounts xs (.record (.ok r))) (hregisters : request.registers = true)
    (hmissed : Missed xs) :
  Made xs r
  := by
  cases request with
  | register info definition type => apply h
  | findOrRegister info type =>
    rcases h with ⟨stored, rfl, -⟩ | hmade
    · apply absurd _ (hmissed r.info stored)
      simp
    · apply hmade
  | _ => simp [registers] at hregisters

namespace Remote.World

variable {clock : Nat → Timestamp} {settings : List Options} {jobs : List (Job settings.length)}
  {moves : List Move}

end Remote.World

end WireSchemas
