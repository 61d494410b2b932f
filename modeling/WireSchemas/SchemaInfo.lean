import WireSchemas.DataFormat
import WireSchemas.Text.Blank

/-!
# Schema infos

A schema info names a schema and the format of the bodies that follow it.  It is also the key
under which a schema is stored: the same subject in two formats has two schemas.
-/

namespace WireSchemas

/-- A schema name, also called a subject, with a data format. -/
structure SchemaInfo where
  name : String
  format : DataFormat
deriving Repr, DecidableEq, Inhabited

namespace SchemaInfo

/-- The info without a name and without a format. -/
def none : SchemaInfo :=
  ⟨"", .unspecified⟩

/-- A name is missing when it is blank. -/
def NameMissing (info : SchemaInfo) : Prop :=
  Text.Blank info.name

instance (info : SchemaInfo) : Decidable info.NameMissing :=
  inferInstanceAs (Decidable (Text.Blank _))

/-- The info with another name. -/
def withName (info : SchemaInfo) (name : String) : SchemaInfo :=
  { info with name }

/-- The text shown for an info. -/
def display (info : SchemaInfo) : String :=
  info.name ++ " (" ++ info.format.name ++ ")"

/-! ### Order: by name, then by number of the format -/

instance : Ord SchemaInfo :=
  ⟨compareLex (compareOn SchemaInfo.name) (compareOn SchemaInfo.format)⟩

instance : Std.TransOrd SchemaInfo :=
  inferInstanceAs
    (Std.TransCmp (compareLex (compareOn SchemaInfo.name) (compareOn SchemaInfo.format)))

theorem compare_eq_eq_iff {a b : SchemaInfo} :
  compare a b = .eq ↔ compare a.name b.name = .eq ∧ compare a.format b.format = .eq
  := compareLex_eq_eq

instance : Std.LawfulEqOrd SchemaInfo where
  compare_self := compare_eq_eq_iff.2 ⟨Std.ReflCmp.compare_self, Std.ReflCmp.compare_self⟩
  eq_of_compare {a b} h := by
    have h := compare_eq_eq_iff.1 h
    have h₁ := Std.LawfulEqCmp.eq_of_compare h.1
    have h₂ := Std.LawfulEqCmp.eq_of_compare h.2
    cases a
    cases b
    simp_all

end SchemaInfo

end WireSchemas
