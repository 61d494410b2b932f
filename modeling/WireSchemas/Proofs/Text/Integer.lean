import Mathlib.Tactic.IntervalCases
import WireSchemas.Text.Integer

/-!
# Integers read back

The decimal digits of a natural number denote it, and the text of an integer denotes it to readers
that take its sign.  So no two integers have one text.
-/

namespace WireSchemas.Text

theorem digitValue?_digitChar {n : Nat} (h : n < 10) :
  digitValue? n.digitChar = some n
  := by
  interval_cases n <;> decide

theorem naturalFrom?_append (acc : Nat) (cs ds : List Char) :
  naturalFrom? acc (cs ++ ds) = (naturalFrom? acc cs).bind fun n => naturalFrom? n ds
  := by
  induction cs generalizing acc with
  | nil => rfl
  | cons c cs ih =>
    simp only [List.cons_append, naturalFrom?]
    cases digitValue? c with
    | none => rfl
    | some d => apply ih

theorem naturalFrom?_naturalDigits (n : Nat) :
  naturalFrom? 0 (naturalDigits n) = some n
  := by
  induction n using Nat.strongRecOn with
  | ind n ih =>
    rw [naturalDigits]
    by_cases hlt : n < 10
    · simp [Nat.toDigits_of_lt_base hlt, naturalFrom?, digitValue?_digitChar hlt]
    · have hmod : n % 10 < 10 := by omega
      rw [Nat.toDigits_of_base_le (by decide) (by omega), naturalFrom?_append, ← naturalDigits,
        ih (n / 10) (by omega)]
      simp only [Option.bind_some, naturalFrom?, digitValue?_digitChar hmod, Option.some.injEq]
      omega

theorem exists_naturalDigits_eq_cons (n : Nat) :
  ∃ c cs, naturalDigits n = c :: cs ∧ c.isDigit = true
  := by
  obtain ⟨c, cs, hdigits⟩ := List.exists_cons_of_ne_nil (Nat.toDigits_ne_nil (n := n) (b := 10))
  refine ⟨c, cs, hdigits, ?_⟩
  apply Nat.isDigit_of_mem_toDigits (by decide) (Nat.le_refl 10)
  rw [hdigits]
  apply List.mem_cons_self

theorem natural?_naturalDigits (n : Nat) :
  natural? (naturalDigits n) = some n
  := by
  obtain ⟨c, cs, hdigits, -⟩ := exists_naturalDigits_eq_cons n
  have hread := naturalFrom?_naturalDigits n
  rw [hdigits] at hread ⊢
  apply hread

/-- The text of an integer denotes it, where a minus sign is read if it has one. -/
theorem signedNumber?_integerText {signed : Bool} {n : Int} (h : 0 ≤ n ∨ signed = true) :
  IntegerType.signedNumber? signed (integerText n).toList = some n
  := by
  rw [integerText, String.toList_ofList]
  split
  · next hneg =>
    have hsigned : signed = true := h.resolve_left (by omega)
    have hread : IntegerType.signedNumber? signed ('-' :: naturalDigits n.natAbs) =
        some (-(n.natAbs : Int)) := by
      simp [IntegerType.signedNumber?, hsigned, natural?_naturalDigits]
    rw [hread, Option.some.injEq]
    omega
  · next hnonneg =>
    have hread := natural?_naturalDigits n.natAbs
    obtain ⟨c, cs, hdigits, hdigit⟩ := exists_naturalDigits_eq_cons n.natAbs
    rw [hdigits] at hread ⊢
    -- a digit is no sign, so the text is read as it stands
    have hplus : c ≠ '+' := by
      rintro rfl
      cases hdigit
    have hminus : c ≠ '-' := by
      rintro rfl
      cases hdigit
    have hunsigned : IntegerType.signedNumber? signed (c :: cs) = some (n.natAbs : Int) := by
      simp [IntegerType.signedNumber?, hplus, hminus, hread]
    rw [hunsigned, Option.some.injEq]
    omega

theorem integerText_inj {n m : Int} :
  integerText n = integerText m ↔ n = m
  := by
  constructor
  · intro h
    have hread (k : Int) : IntegerType.signedNumber? true (integerText k).toList = some k :=
      signedNumber?_integerText (.inr rfl)
    apply Option.some.inj
    rw [← hread n, h, hread m]
  · rintro rfl
    rfl

/-- The text of an integer has as many digits at most as bound it, and perhaps a sign. -/
theorem length_integerText_le {n : Int} {k : Nat} (hk : 0 < k) (h : n.natAbs < 10 ^ k) :
  (integerText n).length ≤ k + 1
  := by
  have hdigits : (naturalDigits n.natAbs).length ≤ k :=
    (Nat.length_toDigits_le_iff (by decide) hk).2 h
  rw [integerText, String.length_ofList]
  split
  · rw [List.length_cons]
    omega
  · omega

end WireSchemas.Text
