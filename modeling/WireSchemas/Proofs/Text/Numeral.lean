import Mathlib.Data.Nat.Digits.Defs
import WireSchemas.Proofs.DataFormat
import WireSchemas.Proofs.Text.Integer

/-!
# Numerals

The texts that denote integers, with the value of the digits at their places.  The reader takes a
text, blanks around it aside, for a number of a type exactly when it denotes one:
`parse?_trim_eq_some_iff`.
-/

namespace WireSchemas.Text

/-! ### Digits -/

/-- One or more ASCII digits. -/
structure IsDigits (ds : List Char) : Prop where
  ne_nil : ds ≠ []
  isDigit : ∀ c ∈ ds, c.isDigit = true

/-- The number that digits denote, each ten times what it would one place further on. -/
def digitsValue (ds : List Char) : Nat :=
  Nat.ofDigits 10 (ds.reverse.map fun c => c.toNat - '0'.toNat)

theorem digitsValue_cons (c : Char) (ds : List Char) :
  digitsValue (c :: ds) = (c.toNat - '0'.toNat) * 10 ^ ds.length + digitsValue ds
  := by
  simp [digitsValue, Nat.ofDigits_append, Nat.mul_comm, Nat.add_comm]

theorem digitValue?_eq_some_iff {c : Char} {d : Nat} :
  digitValue? c = some d ↔ c.isDigit = true ∧ c.toNat - '0'.toNat = d
  := by
  have hdigit : ('0' ≤ c ∧ c ≤ '9') ↔ c.isDigit = true := by
    simp [Char.isDigit, Char.le_def]
  rw [digitValue?, Option.ite_none_right_eq_some, hdigit, Option.some.injEq]
  rfl

theorem naturalFrom?_eq_some_iff {acc n : Nat} {ds : List Char} :
  naturalFrom? acc ds = some n ↔
    (∀ c ∈ ds, c.isDigit = true) ∧ acc * 10 ^ ds.length + digitsValue ds = n
  := by
  induction ds generalizing acc with
  | nil => simp [naturalFrom?, digitsValue]
  | cons c ds ih =>
    have hshift (d : Nat) : (10 * acc + d) * 10 ^ ds.length =
        acc * 10 ^ (ds.length + 1) + d * 10 ^ ds.length := by
      rw [Nat.add_mul, Nat.pow_succ, Nat.mul_comm 10 acc, Nat.mul_assoc, Nat.mul_comm 10]
    rw [naturalFrom?, Option.bind_eq_some_iff, List.forall_mem_cons, digitsValue_cons,
      List.length_cons]
    simp only [digitValue?_eq_some_iff, ih, hshift]
    constructor
    · rintro ⟨d, ⟨hc, rfl⟩, hds, hn⟩
      exact ⟨⟨hc, hds⟩, by rw [← hn, Nat.add_assoc]⟩
    · rintro ⟨⟨hc, hds⟩, hn⟩
      exact ⟨_, ⟨hc, rfl⟩, hds, by rw [← hn, Nat.add_assoc]⟩

theorem natural?_eq_some_iff {n : Nat} {ds : List Char} :
  natural? ds = some n ↔ IsDigits ds ∧ digitsValue ds = n
  := by
  cases ds with
  | nil =>
    rw [natural?]
    refine ⟨nofun, ?_⟩
    rintro ⟨hds, -⟩
    cases hds.ne_nil rfl
  | cons c ds =>
    rw [natural?, naturalFrom?_eq_some_iff, Nat.zero_mul, Nat.zero_add]
    · exact and_congr_left' ⟨fun h => ⟨List.cons_ne_nil c ds, h⟩, fun h => h.isDigit⟩
    · exact List.cons_ne_nil c ds

/-! ### Signs -/

/-- A numeral is digits, perhaps after a sign; a minus sign stands for signed numbers only. -/
inductive Numeral (signed : Bool) : List Char → Int → Prop where
  | bare {ds : List Char} (hds : IsDigits ds) : Numeral signed ds (digitsValue ds)
  | plus {ds : List Char} (hds : IsDigits ds) : Numeral signed ('+' :: ds) (digitsValue ds)
  | minus {ds : List Char} (hds : IsDigits ds) (hsigned : signed = true) :
    Numeral signed ('-' :: ds) (-digitsValue ds)

theorem IsDigits.head_ne {c : Char} {ds : List Char} (h : IsDigits (c :: ds)) {sign : Char}
    (hsign : sign.isDigit = false) :
  c ≠ sign
  := by
  rintro rfl
  rw [h.isDigit c List.mem_cons_self] at hsign
  cases hsign

/-- The reader takes numerals and nothing else. -/
theorem signedNumber?_eq_some_iff {signed : Bool} {cs : List Char} {n : Int} :
  IntegerType.signedNumber? signed cs = some n ↔ Numeral signed cs n
  := by
  constructor
  · intro h
    rw [IntegerType.signedNumber?.eq_def] at h
    split at h
    · obtain ⟨m, hm, rfl⟩ := Option.map_eq_some_iff.1 h
      obtain ⟨hds, rfl⟩ := natural?_eq_some_iff.1 hm
      apply Numeral.plus hds
    · obtain ⟨hsigned, h⟩ := Option.ite_none_right_eq_some.1 h
      obtain ⟨_, hread, rfl⟩ := Option.map_eq_some_iff.1 h
      obtain ⟨m, hm, ⟨⟩⟩ := Option.bind_eq_some_iff.1 hread
      obtain ⟨hds, rfl⟩ := natural?_eq_some_iff.1 hm
      apply Numeral.minus hds hsigned
    · obtain ⟨m, hm, rfl⟩ := Option.map_eq_some_iff.1 h
      obtain ⟨hds, rfl⟩ := natural?_eq_some_iff.1 hm
      apply Numeral.bare hds
  · rintro (hds | hds | ⟨hds, rfl⟩)
    · obtain ⟨c, ds, rfl⟩ := List.exists_cons_of_ne_nil hds.ne_nil
      -- digits begin with no sign, so they are read as they stand
      have hplus : c ≠ '+' := hds.head_ne (by decide)
      have hminus : c ≠ '-' := hds.head_ne (by decide)
      simp [IntegerType.signedNumber?, hplus, hminus, natural?_eq_some_iff.2 ⟨hds, rfl⟩]
    · simp [IntegerType.signedNumber?, natural?_eq_some_iff.2 ⟨hds, rfl⟩]
    · simp [IntegerType.signedNumber?, natural?_eq_some_iff.2 ⟨hds, rfl⟩]

/-- A numeral for numbers without a sign denotes the same with one. -/
theorem Numeral.of_unsigned {signed : Bool} {cs : List Char} {n : Int} (h : Numeral signed cs n) :
  Numeral true cs n
  := by
  cases h with
  | bare hds => apply Numeral.bare hds
  | plus hds => apply Numeral.plus hds
  | minus hds => apply Numeral.minus hds rfl

/-! ### Blanks -/

theorem isBlank_of_isDigit {c : Char} (h : c.isDigit = true) :
  isBlank c = false
  := by
  have hdigit : 48 ≤ c.toNat ∧ c.toNat ≤ 57 := by
    simpa [Char.isDigit, UInt32.le_iff_toNat_le] using h
  simp [isBlank]
  omega

theorem Numeral.isBlank_eq_false {signed : Bool} {cs : List Char} {n : Int}
    (h : Numeral signed cs n) :
  ∀ c ∈ cs, isBlank c = false
  := by
  cases h with
  | bare hds => exact fun c hc => isBlank_of_isDigit (hds.isDigit c hc)
  | plus hds =>
    exact List.forall_mem_cons.2 ⟨by decide, fun c hc => isBlank_of_isDigit (hds.isDigit c hc)⟩
  | minus hds =>
    exact List.forall_mem_cons.2 ⟨by decide, fun c hc => isBlank_of_isDigit (hds.isDigit c hc)⟩

theorem Numeral.trim_eq {signed : Bool} {s : String} {n : Int} (h : Numeral signed s.toList n) :
  trim s = s
  := by
  have htrim : trimChars ([] ++ s.toList ++ []) = s.toList :=
    trimChars_surrounded nofun h.isBlank_eq_false nofun
  rw [List.nil_append, List.append_nil] at htrim
  rw [trim, htrim, String.ofList_toList]

namespace IntegerType

/-- A text denotes a number of a type when it is a numeral for it, with any blanks around it, and
the number is in the range of the type. -/
def DenotedBy (t : IntegerType) (n : Int) (s : String) : Prop :=
  (∃ before core after, s.toList = before ++ core ++ after ∧
    (∀ c ∈ before, isBlank c = true) ∧ (∀ c ∈ after, isBlank c = true) ∧
    Numeral t.signed core n) ∧
  t.Holds n

/-- The number of a trimmed text is the one that the text denotes. -/
theorem parse?_trim_eq_some_iff {t : IntegerType} {n : Int} {s : String} :
  t.parse? (trim s) = some n ↔ t.DenotedBy n s
  := by
  rw [parse?, Option.filter_eq_some_iff, decide_eq_true_eq, signedNumber?_eq_some_iff, trim,
    String.toList_ofList, DenotedBy]
  apply and_congr_left'
  constructor
  · intro h
    obtain ⟨before, after, hs, hbefore, hafter⟩ := exists_surrounded s.toList
    exact ⟨before, _, after, hs, hbefore, hafter, h⟩
  · rintro ⟨before, core, after, hs, hbefore, hafter, hcore⟩
    rw [hs, trimChars_surrounded hbefore hcore.isBlank_eq_false hafter]
    apply hcore

theorem Holds.nonneg_or_signed {t : IntegerType} {n : Int} (h : t.Holds n) :
  0 ≤ n ∨ t.signed = true
  := by
  cases hsigned : t.signed with
  | false =>
    left
    have hleast := h.1
    rw [least, hsigned] at hleast
    exact hleast
  | true => exact .inr rfl

/-- The text of a number denotes it in the types that hold it, and no number in any other. -/
theorem denotedBy_integerText_iff {t : IntegerType} {n m : Int} :
  t.DenotedBy m (integerText n) ↔ m = n ∧ t.Holds n
  := by
  have htext : Numeral true (integerText n).toList n :=
    signedNumber?_eq_some_iff.1 (signedNumber?_integerText (.inr rfl))
  have hself : m = n ∧ t.Holds n ↔ m = n ∧ t.Holds m :=
    ⟨fun h => ⟨h.1, h.1 ▸ h.2⟩, fun h => ⟨h.1, h.1 ▸ h.2⟩⟩
  rw [hself, ← parse?_trim_eq_some_iff, htext.trim_eq, parse?, Option.filter_eq_some_iff,
    decide_eq_true_eq]
  apply and_congr_left
  intro hholds
  constructor
  · intro h
    have hread := (signedNumber?_eq_some_iff.1 h).of_unsigned
    rw [← Option.some.injEq, ← signedNumber?_eq_some_iff.2 hread, signedNumber?_eq_some_iff]
    apply htext
  · rintro rfl
    apply signedNumber?_integerText hholds.nonneg_or_signed

end IntegerType

end WireSchemas.Text
