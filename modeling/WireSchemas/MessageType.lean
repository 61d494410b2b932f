/-!
# Message types

An application declares each of its message types by a scope, such as `Identity.Schema`, and a
simple name, such as `UserRegistered`.  A type without a name is the missing type.
-/

namespace WireSchemas

/-- The identifier of an application message type. -/
structure MessageType where
  /-- The declaring namespace, which may be empty. -/
  scope : String
  /-- The simple name. -/
  name : String
deriving Repr, DecidableEq, Inhabited

namespace MessageType

/-- The type that stands for no type. -/
def missing : MessageType :=
  ⟨"", ""⟩

/-- A type is missing when it has no name, whatever its scope. -/
def isMissing (t : MessageType) : Bool :=
  t.name.isEmpty

/-- The scope and the name with a dot between them, or the name alone in the empty scope. -/
def fullName (t : MessageType) : String :=
  if t.scope.isEmpty then t.name else t.scope ++ "." ++ t.name

/-- The text shown for a type. -/
def display (t : MessageType) : String :=
  if t.isMissing then "<missing>" else t.fullName

/-! ### Order: by scope, then by name -/

instance : Ord MessageType :=
  ⟨compareLex (compareOn MessageType.scope) (compareOn MessageType.name)⟩

instance : Std.TransOrd MessageType :=
  inferInstanceAs
    (Std.TransCmp (compareLex (compareOn MessageType.scope) (compareOn MessageType.name)))

theorem compare_eq_eq_iff {a b : MessageType} :
  compare a b = .eq ↔ compare a.scope b.scope = .eq ∧ compare a.name b.name = .eq
  := compareLex_eq_eq

instance : Std.LawfulEqOrd MessageType where
  compare_self := compare_eq_eq_iff.2 ⟨Std.ReflCmp.compare_self, Std.ReflCmp.compare_self⟩
  eq_of_compare {a b} h := by
    have h := compare_eq_eq_iff.1 h
    have h₁ := Std.LawfulEqCmp.eq_of_compare h.1
    have h₂ := Std.LawfulEqCmp.eq_of_compare h.2
    cases a
    cases b
    simp_all

end MessageType

end WireSchemas
