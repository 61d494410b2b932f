import WireSchemas.Proofs.Headers.Edits
import WireSchemas.Proofs.Text.Integer
import WireSchemas.Proofs.Text.Numeral

/-!
# Numbers in headers

A header is a number of a type when its text denotes one, and is as if absent otherwise.  A number
that is written is read back at every width that holds it: `numbers_exact`.
-/

namespace WireSchemas.Headers

open Text

/-- A key has a text, and the text denotes a number of a type. -/
def DenotesNumber (h : Headers) (key : String) (t : IntegerType) (n : Int) : Prop :=
  ∃ s, h.get? key = some (some s) ∧ t.DenotedBy n s

theorem text?_eq_some_iff {h : Headers} {key s : String} :
  h.text? key = some s ↔ h.get? key = some (some s)
  := by
  rw [text?, Option.join_eq_some_iff]

/-- A header is read as the number that it denotes, or as the default when it denotes none. -/
theorem integerD_eq_iff {h : Headers} {key : String} {t : IntegerType} {default n : Int} :
  h.integerD key t default = n ↔
    h.DenotesNumber key t n ∨ n = default ∧ ∀ m, ¬ h.DenotesNumber key t m
  := by
  have hread (m : Int) : ((h.text? key).bind fun s => t.parse? (trim s)) = some m ↔
      h.DenotesNumber key t m := by
    simp only [Option.bind_eq_some_iff, text?_eq_some_iff, IntegerType.parse?_trim_eq_some_iff,
      DenotesNumber]
  rw [integerD]
  cases hnumber : (h.text? key).bind fun s => t.parse? (trim s) with
  | none =>
    have hnone : ∀ m, ¬ h.DenotesNumber key t m := by
      intro m hm
      rw [← hread, hnumber] at hm
      cases hm
    simp [hnone, eq_comm]
  | some m =>
    have hdenotes : ∀ k, h.DenotesNumber key t k ↔ m = k := by
      intro k
      rw [← hread, hnumber, Option.some.injEq]
    simp [hdenotes]

/-- A number that is written is the one that its key denotes, in the types that hold it. -/
theorem denotesNumber_setNumber_iff {h : Headers} {key : String} {t : IntegerType} {n m : Int} :
  (h.setNumber key n).DenotesNumber key t m ↔ m = n ∧ t.Holds n
  := by
  rw [DenotesNumber, setNumber, get?_set, if_pos rfl, ← IntegerType.denotedBy_integerText_iff]
  constructor
  · rintro ⟨s, ⟨⟩, hm⟩
    exact hm
  · intro hm
    exact ⟨_, rfl, hm⟩

/-- A header is read as the number that its text denotes in a type: a sign if there is one, a minus
only where there are negative numbers, then one or more digits, with any blanks around all of it,
and a number in the range of the type.  Every other text, a null and an absent key give the default.
A number that is written is read back in every type whose range it is in, up to both ends, and as
the default in every other, and no other header changes. -/
theorem numbers_exact (h : Headers) (key : String) (t : IntegerType) (default n : Int) :
  (h.integerD key t default = n ↔
    h.DenotesNumber key t n ∨ n = default ∧ ∀ m, ¬ h.DenotesNumber key t m) ∧
  (h.setNumber key n).integerD key t default =
    (if t.least ≤ n ∧ n ≤ t.greatest then n else default) ∧
  ∀ key', (h.setNumber key n).get? key' =
    if key = key' then some (some (integerText n)) else h.get? key'
  := by
  refine ⟨integerD_eq_iff, ?_, fun key' => get?_set h key key' _⟩
  rw [integerD_eq_iff]
  simp only [denotesNumber_setNumber_iff]
  split
  · next hholds => exact .inl ⟨rfl, hholds⟩
  · next hout => exact .inr ⟨rfl, fun m hm => hout hm.2⟩

/-- The least number of eight bits has a sign, and a text with leading zeros and blanks of any kind
denotes it. -/
example :
    let h : Headers := SortedMap.ofList [("low", some "\u3000-00128\t"), ("over", some "128"),
      ("minus", some "-0"), ("half", some "1.0")]
    h.integerD "low" ⟨true, 8⟩ 7 = -128 ∧ h.integerD "over" ⟨true, 8⟩ 7 = 7 ∧
      h.integerD "over" ⟨false, 8⟩ 7 = 128 ∧ h.integerD "minus" ⟨false, 8⟩ 7 = 7 ∧
      h.integerD "half" ⟨true, 64⟩ 7 = 7 := by
  decide +kernel

end WireSchemas.Headers
