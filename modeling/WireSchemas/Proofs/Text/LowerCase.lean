import Mathlib.Data.Nat.ModEq
import WireSchemas.Text.LowerCase

/-!
# Laws of lower-casing

What the tables give on a single character is fixed by them: no run of the mapping holds a character
that another sends something to, which is checked run against run.  So text that has been put in
lower case stays as it is, `lowerChars_lowerChars`.

A character is inert when it takes no part in lower-casing at all.  Where one inert character stands
another may stand, and nothing else changes: `lowerAfter_map_replaced`.
-/

namespace WireSchemas.Text

/-! ### Runs of the mapping -/

/-- No number lies in both ranges. -/
def apart (p q : Nat × Nat) : Bool :=
  p.2.blt q.1 || q.2.blt p.1

theorem not_mem_of_apart {p q : Nat × Nat} (h : apart p q = true) {n : Nat}
    (hp : p.1 ≤ n ∧ n ≤ p.2) :
  ¬ (q.1 ≤ n ∧ n ≤ q.2)
  := by
  simp only [apart, Bool.or_eq_true, Nat.blt_eq] at h
  omega

namespace LowerRun

/-- A run holds a number. -/
def Holds (r : LowerRun) (n : Nat) : Prop :=
  r.first ≤ n ∧ n ≤ r.last ∧ (n - r.first) % r.step = 0

/-- The number that a run sends a number to. -/
def image (r : LowerRun) (n : Nat) : Nat :=
  (n + r.shift).toNat

/-- The range of a run. -/
def source (r : LowerRun) : Nat × Nat :=
  (r.first, r.last)

/-- The range that a run sends its numbers into. -/
def target (r : LowerRun) : Nat × Nat :=
  (r.image r.first, r.image r.last)

/-- The run `s` holds nothing that the run `r` sends something to: either their ranges lie apart, or
what `r` gives falls between the steps of `s`. -/
def misses (r s : LowerRun) : Bool :=
  apart r.target s.source ||
    ((r.first.beq r.last || (r.step % s.step).beq 0) &&
      !(r.target.1 % s.step).beq (s.first % s.step))

/-- The numbers that a run gives are those of characters, other than the dotted capital I. -/
def givesChars (r : LowerRun) : Bool :=
  decide (0 ≤ r.first + r.shift) && r.target.2.blt 0x110000 &&
    apart r.target (0xD800, 0xDFFF) && apart r.target (0x130, 0x130)

end LowerRun

theorem givesChars_lowerRuns :
  ∀ r ∈ lowerRuns, r.givesChars = true
  := by
  rw [← List.all_eq_true]
  decide +kernel

theorem misses_lowerRuns :
  ∀ r ∈ lowerRuns, ∀ s ∈ lowerRuns, r.misses s = true
  := by
  simp only [← List.all_eq_true]
  decide +kernel

variable {r : LowerRun}

theorem LowerRun.Holds.image_eq {n : Nat} (h : r.Holds n) (hchars : r.givesChars = true) :
  r.image n = r.target.1 + (n - r.first)
  := by
  simp only [givesChars, Bool.and_eq_true, decide_eq_true_eq] at hchars
  obtain ⟨hfirst, -⟩ := h
  simp only [image, target]
  omega

theorem LowerRun.Holds.image_mem_target {n : Nat} (h : r.Holds n) :
  r.target.1 ≤ r.image n ∧ r.image n ≤ r.target.2
  := by
  obtain ⟨hfirst, hlast, -⟩ := h
  simp only [image, target]
  omega

/-- What a run sends something to is no number that a run it misses holds. -/
theorem LowerRun.Holds.not_holds_image {n : Nat} (h : r.Holds n) (hchars : r.givesChars = true)
    {s : LowerRun} (hs : r.misses s = true) :
  ¬ s.Holds (r.image n)
  := by
  rintro ⟨hfirst, hlast, hstep⟩
  simp only [misses, Bool.or_eq_true, Bool.and_eq_true, Nat.beq_eq, Bool.not_eq_true',
    ← Bool.not_eq_true] at hs
  rcases hs with hapart | ⟨hsteps, hphase⟩
  · apply not_mem_of_apart hapart h.image_mem_target ⟨hfirst, hlast⟩
  · -- from the start of the target and from the start of `s` it is whole steps of `s` away
    have htarget : s.step ∣ r.image n - r.target.1 := by
      rw [h.image_eq hchars, Nat.add_sub_cancel_left]
      obtain ⟨hle, hge, hn⟩ := h
      rcases hsteps with hsingle | hsteps
      · have hzero : n - r.first = 0 := by omega
        rw [hzero]
        apply Nat.dvd_zero
      · apply Nat.dvd_trans (Nat.dvd_of_mod_eq_zero hsteps) (Nat.dvd_of_mod_eq_zero hn)
    have hsource : s.step ∣ r.image n - s.first := Nat.dvd_of_mod_eq_zero hstep
    apply hphase
    trans r.image n % s.step
    · apply (Nat.modEq_iff_dvd' h.image_mem_target.1).2 htarget
    · symm
      apply (Nat.modEq_iff_dvd' hfirst).2 hsource

/-! ### Characters on their own -/

theorem lowerRun?_eq_none_iff {n : Nat} :
  lowerRun? n = none ↔ ∀ r ∈ lowerRuns, ¬ r.Holds n
  := by
  simp [lowerRun?, LowerRun.Holds, and_assoc]

theorem holds_of_lowerRun? {n : Nat} (h : lowerRun? n = some r) :
  r ∈ lowerRuns ∧ r.Holds n
  := by
  have hholds := List.find?_some h
  simp only [Bool.and_eq_true, decide_eq_true_eq, beq_iff_eq, and_assoc] at hholds
  exact ⟨List.mem_of_find?_eq_some h, hholds⟩

/-- The run of the letters `A` to `Z`. -/
def capitals : LowerRun :=
  ⟨0x41, 0x5A, 1, 32⟩

theorem capitals_holds_iff {c : Char} :
  capitals.Holds c.toNat ↔ 'A' ≤ c ∧ c ≤ 'Z'
  := by
  simp only [LowerRun.Holds, capitals, Nat.mod_one, and_true, Char.le_def, UInt32.le_iff_toNat_le]
  rfl

/-- A character stays unless it is the dotted capital I or one that a run holds. -/
theorem lowerChar_eq_self {c : Char} (hruns : ∀ r ∈ lowerRuns, ¬ r.Holds c.toNat)
    (hdotted : c ≠ '\u0130') :
  lowerChar c = [c]
  := by
  have hcapital : ¬ ('A' ≤ c ∧ c ≤ 'Z') := by
    rw [← capitals_holds_iff]
    exact hruns capitals List.mem_cons_self
  rw [lowerChar, if_neg hcapital, if_neg hdotted, lowerRun?_eq_none_iff.2 hruns]
  split <;> rfl

/-- What a character becomes on its own: itself, the two characters of a dotted I, or the image
under a run that holds it. -/
theorem lowerChar_cases (c : Char) :
  lowerChar c = [c] ∨ lowerChar c = ['i', '\u0307'] ∨
    ∃ r ∈ lowerRuns, r.Holds c.toNat ∧ lowerChar c = [Char.ofNat (r.image c.toNat)]
  := by
  unfold lowerChar
  split
  · split
    · next hcapital =>
      right
      right
      exact ⟨capitals, List.mem_cons_self, capitals_holds_iff.2 hcapital, rfl⟩
    · exact .inl rfl
  · split
    · exact .inr (.inl rfl)
    · cases hrun : lowerRun? c.toNat with
      | none => exact .inl rfl
      | some r =>
        obtain ⟨hmem, hholds⟩ := holds_of_lowerRun? hrun
        exact .inr (.inr ⟨r, hmem, hholds, rfl⟩)

/-- A run that gives characters gives the one whose number it says. -/
theorem LowerRun.Holds.toNat_ofNat_image {n : Nat} (h : r.Holds n) (hchars : r.givesChars = true) :
  (Char.ofNat (r.image n)).toNat = r.image n
  := by
  have himage := h.image_mem_target
  simp only [givesChars, Bool.and_eq_true, Nat.blt_eq] at hchars
  obtain ⟨⟨⟨-, hlt⟩, hsurrogates⟩, -⟩ := hchars
  have hnot := not_mem_of_apart hsurrogates himage
  have hvalid : (r.image n).isValidChar := by
    rw [Nat.isValidChar]
    omega
  rw [Char.ofNat, dif_pos hvalid]
  rfl

/-- What a character becomes stays as it is. -/
theorem lowerChar_of_mem {c d : Char} (h : d ∈ lowerChar c) :
  lowerChar d = [d]
  := by
  rcases lowerChar_cases c with hself | hdotted | ⟨r, hr, hholds, himage⟩
  · rw [hself, List.mem_singleton] at h
    rw [h, hself]
  · rw [hdotted, List.mem_cons, List.mem_singleton] at h
    rcases h with rfl | rfl <;> decide +kernel
  · rw [himage, List.mem_singleton] at h
    have hchars := givesChars_lowerRuns r hr
    have hd : d.toNat = r.image c.toNat := by rw [h, hholds.toNat_ofNat_image hchars]
    apply lowerChar_eq_self
    · intro s hs
      rw [hd]
      apply hholds.not_holds_image hchars (misses_lowerRuns r hr s hs)
    · rintro rfl
      simp only [LowerRun.givesChars, Bool.and_eq_true] at hchars
      apply not_mem_of_apart hchars.2 hholds.image_mem_target
      rw [← hd]
      decide

/-- A letter of `A` to `Z` does not stay. -/
theorem not_holds_capitals {c : Char} (h : lowerChar c = [c]) :
  ¬ capitals.Holds c.toNat
  := by
  intro hholds
  have hlt : c.toNat < 0x80 := Nat.lt_of_le_of_lt hholds.2.1 (by decide)
  rw [lowerChar, if_pos hlt, if_pos (capitals_holds_iff.1 hholds)] at h
  have hc : Char.ofNat (capitals.image c.toNat) = c := List.head_eq_of_cons_eq h
  have hmem : capitals ∈ lowerRuns := List.mem_cons_self
  have hchars := givesChars_lowerRuns capitals hmem
  apply hholds.not_holds_image hchars (misses_lowerRuns capitals hmem capitals hmem)
  rw [← hholds.toNat_ofNat_image hchars, hc]
  exact hholds

theorem lowerChar_ne_nil (c : Char) :
  lowerChar c ≠ []
  := by
  rcases lowerChar_cases c with h | h | ⟨r, _, _, h⟩ <;> rw [h] <;> apply List.cons_ne_nil

/-! ### Inert characters -/

/-- A character with no part in lower-casing: it stays, no other becomes it, and the context of a
sigma ends there with no case found. -/
structure Inert (c : Char) : Prop where
  lowerChar_self : lowerChar c = [c]
  eq_of_mem : ∀ d, c ∈ lowerChar d → d = c
  not_isCaseIgnorable : isCaseIgnorable c = false
  not_isCased : isCased c = false

/-- A range of characters that the tables know nothing of. -/
def clear (p : Nat × Nat) : Bool :=
  (lowerRuns.all fun r => apart r.source p && apart r.target p) &&
    (caseIgnorableRanges.all (apart p) && casedRanges.all (apart p)) &&
    [0x69, 0x130, 0x307].all fun n => apart (n, n) p

theorem inRanges_eq_false {p : Nat × Nat} {ranges : List (Nat × Nat)}
    (h : ranges.all (apart p) = true) {c : Char} (hc : p.1 ≤ c.toNat ∧ c.toNat ≤ p.2) :
  inRanges ranges c = false
  := by
  simp only [inRanges, List.any_eq_false, Bool.and_eq_true, decide_eq_true_eq]
  intro q hq
  apply not_mem_of_apart (List.all_eq_true.1 h q hq) hc

theorem inert_of_clear {p : Nat × Nat} (hp : clear p = true) {c : Char}
    (hc : p.1 ≤ c.toNat ∧ c.toNat ≤ p.2) :
  Inert c
  := by
  simp only [clear, Bool.and_eq_true] at hp
  obtain ⟨⟨hruns, hignorable, hcased⟩, hdotted⟩ := hp
  have hne : ∀ d : Char, d.toNat ∈ [0x69, 0x130, 0x307] → c ≠ d := by
    rintro d hd rfl
    apply not_mem_of_apart (List.all_eq_true.1 hdotted _ hd) ⟨Nat.le_refl _, Nat.le_refl _⟩ hc
  have hruns : ∀ r ∈ lowerRuns, apart r.source p = true ∧ apart r.target p = true := by
    intro r hr
    apply Bool.and_eq_true_iff.1 (List.all_eq_true.1 hruns r hr)
  have hself : lowerChar c = [c] := by
    apply lowerChar_eq_self
    · rintro r hr ⟨hfirst, hlast, -⟩
      apply not_mem_of_apart (hruns r hr).1 ⟨hfirst, hlast⟩ hc
    · apply hne
      decide
  refine ⟨hself, ?_, inRanges_eq_false hignorable hc, inRanges_eq_false hcased hc⟩
  intro d hd
  rcases lowerChar_cases d with h | h | ⟨r, hr, hholds, h⟩
  · rw [h, List.mem_singleton] at hd
    exact hd.symm
  · rw [h, List.mem_cons, List.mem_singleton] at hd
    rcases hd with hd | hd <;> exact absurd hd (hne _ (by decide))
  · rw [h, List.mem_singleton] at hd
    rw [hd, hholds.toNat_ofNat_image (givesChars_lowerRuns r hr)] at hc
    exact absurd hc (not_mem_of_apart (hruns r hr).2 hholds.image_mem_target)

/-! ### Text -/

/-- What stands for a character in lower case between the reversed text `before` and the text
`after`. -/
def lowered (before : List Char) (c : Char) (after : List Char) : List Char :=
  if c = 'Σ' then [lowerSigma before after] else lowerChar c

theorem lowerAfter_cons (before : List Char) (c : Char) (rest : List Char) :
  lowerAfter before (c :: rest) = lowered before c rest ++ lowerAfter (c :: before) rest
  := rfl

theorem lowerSigma_cases (before after : List Char) :
  lowerSigma before after = 'ς' ∨ lowerSigma before after = 'σ'
  := by
  unfold lowerSigma
  split <;> simp

theorem ne_sigma_of_lowerChar {c : Char} (h : lowerChar c = [c]) :
  c ≠ 'Σ'
  := by
  rintro rfl
  revert h
  decide +kernel

theorem lowerChar_of_mem_lowered {before after : List Char} {c d : Char}
    (h : d ∈ lowered before c after) :
  lowerChar d = [d]
  := by
  unfold lowered at h
  split at h
  · rw [List.mem_singleton] at h
    rcases lowerSigma_cases before after with hsigma | hsigma <;> rw [h, hsigma] <;>
      decide +kernel
  · apply lowerChar_of_mem h

/-- The sigmas have a case, so an inert character comes from itself alone. -/
theorem Inert.eq_of_mem_lowered {before after : List Char} {c d : Char} (hd : Inert d)
    (h : d ∈ lowered before c after) :
  c = d
  := by
  unfold lowered at h
  split at h
  · have hcased : isCased d = true := by
      rw [List.mem_singleton] at h
      rcases lowerSigma_cases before after with hsigma | hsigma <;> rw [h, hsigma] <;>
        decide +kernel
    rw [hd.not_isCased] at hcased
    cases hcased
  · apply hd.eq_of_mem c h

theorem Inert.lowered_eq {c : Char} (hc : Inert c) (before after : List Char) :
  lowered before c after = [c]
  := by
  rw [lowered, if_neg (ne_sigma_of_lowerChar hc.lowerChar_self), hc.lowerChar_self]

theorem lowered_ne_nil (before : List Char) (c : Char) (after : List Char) :
  lowered before c after ≠ []
  := by
  unfold lowered
  split
  · apply List.cons_ne_nil
  · apply lowerChar_ne_nil

/-- The characters of a text in lower case stay as they are. -/
theorem lowerChar_of_mem_lowerAfter {before cs : List Char} {d : Char}
    (h : d ∈ lowerAfter before cs) :
  lowerChar d = [d]
  := by
  induction cs generalizing before with
  | nil => cases h
  | cons c rest ih =>
    rw [lowerAfter_cons, List.mem_append] at h
    rcases h with h | h
    · apply lowerChar_of_mem_lowered h
    · apply ih h

theorem lowerAfter_eq_self {before cs : List Char} (h : ∀ c ∈ cs, lowerChar c = [c]) :
  lowerAfter before cs = cs
  := by
  induction cs generalizing before with
  | nil => rfl
  | cons c rest ih =>
    obtain ⟨hc, hrest⟩ := List.forall_mem_cons.1 h
    rw [lowerAfter, if_neg (ne_sigma_of_lowerChar hc), hc, ih hrest, List.singleton_append]

/-- Text in lower case stays as it is. -/
theorem lowerChars_lowerChars (cs : List Char) :
  lowerChars (lowerChars cs) = lowerChars cs
  := by
  apply lowerAfter_eq_self
  intro c hc
  apply lowerChar_of_mem_lowerAfter hc

/-! ### One inert character for another -/

/-- The character, or `b` if it is `a`. -/
def replaced (a b c : Char) : Char :=
  if c = a then b else c

theorem replaced_self (a : Char) :
  replaced a a = id
  := by
  funext c
  unfold replaced
  split
  · next h => exact h.symm
  · rfl

theorem map_replaced_of_not_mem {a b : Char} {cs : List Char} (h : a ∉ cs) :
  cs.map (replaced a b) = cs
  := by
  have hself : ∀ c ∈ cs, replaced a b c = id c := by
    intro c hc
    apply if_neg
    rintro rfl
    exact h hc
  rw [List.map_congr_left hself, List.map_id]

/-- What holds of neither character sees no difference between them. -/
theorem comp_replaced {a b : Char} {p : Char → Bool} (hpa : p a = false) (hpb : p b = false) :
  p ∘ replaced a b = p
  := by
  funext c
  simp only [Function.comp, replaced]
  split
  · next h => rw [h, hpa, hpb]
  · rfl

section

variable {a b : Char} (ha : Inert a) (hb : Inert b)

include ha hb

theorem startsCased_map_replaced (cs : List Char) :
  startsCased (cs.map (replaced a b)) = startsCased cs
  := by
  rw [startsCased, startsCased, List.dropWhile_map,
    comp_replaced ha.not_isCaseIgnorable hb.not_isCaseIgnorable]
  cases cs.dropWhile isCaseIgnorable with
  | nil => rfl
  | cons c _ => exact congrFun (comp_replaced ha.not_isCased hb.not_isCased) c

theorem lowered_map_replaced (before : List Char) (c : Char) (after : List Char) :
  lowered (before.map (replaced a b)) (replaced a b c) (after.map (replaced a b)) =
    (lowered before c after).map (replaced a b)
  := by
  by_cases hc : c = a
  · subst hc
    have hreplaced : replaced c b c = b := if_pos rfl
    rw [hreplaced, hb.lowered_eq, ha.lowered_eq, List.map_singleton, hreplaced]
  · have hreplaced : replaced a b c = c := if_neg hc
    rw [hreplaced, map_replaced_of_not_mem fun h => hc (ha.eq_of_mem_lowered h)]
    simp only [lowered, lowerSigma, startsCased_map_replaced ha hb]

/-- Lower-casing does not see which inert characters stand in a text. -/
theorem lowerAfter_map_replaced (before cs : List Char) :
  lowerAfter (before.map (replaced a b)) (cs.map (replaced a b)) =
    (lowerAfter before cs).map (replaced a b)
  := by
  induction cs generalizing before with
  | nil => rfl
  | cons c rest ih =>
    have hrest := ih (c :: before)
    rw [List.map_cons] at hrest
    rw [List.map_cons, lowerAfter_cons, lowerAfter_cons, List.map_append, hrest,
      lowered_map_replaced ha hb]

end

end WireSchemas.Text
