import Mathlib.Data.List.Basic
import WireSchemas.Proofs.Naming.Subject

/-!
# Full names of types

A type with a plain name is determined by its full name: what follows the last dot is the name, and
what stands before it is the scope, which may have dots of its own or be empty.
-/

namespace WireSchemas

/-- What stands on either side of the last separator of a list is determined by the list. -/
theorem append_cons_inj_of_last {α : Type} {a : α} {xs xs' ys ys' : List α} (hys : a ∉ ys)
    (hys' : a ∉ ys') (h : xs ++ a :: ys = xs' ++ a :: ys') :
  xs = xs' ∧ ys = ys'
  := by
  rcases List.append_eq_append_iff.1 h with ⟨zs, rfl, hzs⟩ | ⟨zs, rfl, hzs⟩
  · rcases List.cons_eq_append_iff.1 hzs with ⟨rfl, hcons⟩ | ⟨zs, rfl, rfl⟩
    · exact ⟨(List.append_nil xs).symm, (List.cons.inj hcons).2.symm⟩
    · cases hys (List.mem_append_right zs List.mem_cons_self)
  · rcases List.cons_eq_append_iff.1 hzs with ⟨rfl, hcons⟩ | ⟨zs, rfl, rfl⟩
    · exact ⟨List.append_nil xs', (List.cons.inj hcons).2⟩
    · cases hys' (List.mem_append_right zs List.mem_cons_self)

namespace MessageType

/-- A type has a plain name when the name is not blank and has no dot. -/
structure Plain (t : MessageType) : Prop where
  visible : ¬ Text.Blank t.name
  undotted : '.' ∉ t.name.toList

theorem toList_fullName (t : MessageType) :
  t.fullName.toList =
    if t.scope.isEmpty then t.name.toList else t.scope.toList ++ '.' :: t.name.toList
  := by
  rw [fullName]
  split
  · rfl
  · simp [String.toList_append]

/-- Types with plain names have different full names. -/
theorem fullName_inj {t t' : MessageType} (ht : t.Plain) (ht' : t'.Plain) :
  t.fullName = t'.fullName ↔ t = t'
  := by
  constructor
  · intro h
    have hlist := congrArg String.toList h
    rw [toList_fullName, toList_fullName] at hlist
    -- a name alone has no dot, so either both scopes are empty or none is
    split at hlist
    · next hempty =>
      split at hlist
      · next hempty' =>
        have hscope := (String.isEmpty_iff.1 hempty).trans (String.isEmpty_iff.1 hempty').symm
        exact congrArg₂ mk hscope (String.toList_inj.1 hlist)
      · cases ht.undotted (hlist ▸ List.mem_append_right _ List.mem_cons_self)
    · split at hlist
      · cases ht'.undotted (hlist ▸ List.mem_append_right _ List.mem_cons_self)
      · obtain ⟨hscope, hname⟩ := append_cons_inj_of_last ht.undotted ht'.undotted hlist
        exact congrArg₂ mk (String.toList_inj.1 hscope) (String.toList_inj.1 hname)
  · rintro rfl
    rfl

end MessageType

end WireSchemas
