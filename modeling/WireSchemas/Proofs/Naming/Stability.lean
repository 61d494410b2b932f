import WireSchemas.Proofs.Naming.Boundaries
import WireSchemas.Proofs.Text.LowerCase

/-!
# Stability of the styles

A text in a style has no capitals that could begin a word, and its only separators are single ones
of the style.  So the passes leave it as it is, but for the separator: `Styled.delimited_eq_map`.
Two styles of a text differ in the separator alone, `map_replaced_delimited`, since a separator is
inert in lower-casing and the context of a sigma does not see which one stands there.
-/

namespace WireSchemas.Naming

open Text (Inert replaced)

/-! ### Separators in lower-casing -/

/-- The ranges of the separators. -/
def separatorRanges : List (Nat × Nat) :=
  [
    (0x09, 0x0D), (0x20, 0x20), (0x2D, 0x2D), (0x5F, 0x5F), (0x85, 0x85), (0xA0, 0xA0),
    (0x1680, 0x1680), (0x2000, 0x200A), (0x2028, 0x2029), (0x202F, 0x202F), (0x205F, 0x205F),
    (0x3000, 0x3000)]

theorem exists_separatorRange {c : Char} (h : isSeparator c = true) :
  ∃ p ∈ separatorRanges, p.1 ≤ c.toNat ∧ c.toNat ≤ p.2
  := by
  have hhyphen : c = '-' ↔ c.toNat = 0x2D := Char.toNat_inj.symm
  have hunderscore : c = '_' ↔ c.toNat = 0x5F := Char.toNat_inj.symm
  simp only [isSeparator, Text.isBlank, Bool.or_eq_true, Bool.and_eq_true, decide_eq_true_eq,
    beq_iff_eq, hhyphen, hunderscore] at h
  simp only [separatorRanges, List.mem_cons, List.not_mem_nil, or_false, exists_eq_or_imp,
    exists_eq_left]
  omega

theorem ne_of_isSeparator {c d : Char} (hc : isSeparator c = false) (hd : isSeparator d = true) :
  c ≠ d
  := by
  rintro rfl
  rw [hc] at hd
  cases hd

/-- A separator takes no part in lower-casing. -/
theorem inert_of_isSeparator {c : Char} (h : isSeparator c = true) :
  Inert c
  := by
  have hclear : ∀ p ∈ separatorRanges, Text.clear p = true := by
    rw [← List.all_eq_true]
    decide +kernel
  obtain ⟨p, hp, hc⟩ := exists_separatorRange h
  apply Text.inert_of_clear (hclear p hp) hc

/-! ### Joined text -/

/-- A text whose separators are single and all the same; if it continues a row that has had its
separator, it begins with another character. -/
inductive Joined (separator : Char) : Bool → List Char → Prop
  | nil {inside} : Joined separator inside []
  | separator {rest} : Joined separator true rest → Joined separator false (separator :: rest)
  | other {inside c rest} :
      isSeparator c = false → Joined separator false rest → Joined separator inside (c :: rest)

namespace Joined

variable {separator : Char} {inside : Bool} {cs : List Char}

theorem of_joinSeparators (separator : Char) (inside : Bool) (cs : List Char) :
  Joined separator inside (joinSeparators separator inside cs)
  := by
  fun_induction joinSeparators separator inside cs with
  | case1 => apply nil
  | case2 c rest _ ih => apply ih
  | case3 inside c rest _ hinside ih =>
    rw [Bool.eq_false_iff.2 hinside]
    apply Joined.separator ih
  | case4 inside c rest hc ih => apply other (Bool.eq_false_iff.2 hc) ih

/-- The only separator of a joined text is its own. -/
theorem eq_of_mem (h : Joined separator inside cs) {c : Char} (hmem : c ∈ cs)
    (hc : isSeparator c = true) :
  c = separator
  := by
  induction h with
  | nil => cases hmem
  | separator _ ih =>
    rcases List.mem_cons.1 hmem with rfl | hmem
    · rfl
    · apply ih hmem
  | other hother _ ih =>
    rcases List.mem_cons.1 hmem with rfl | hmem
    · exact absurd rfl (ne_of_isSeparator hother hc)
    · apply ih hmem

/-- The separators of a joined text are single. -/
theorem not_infix (h : Joined separator inside cs) (hseparator : isSeparator separator = true) :
  ¬ [separator, separator] <:+: cs
  := by
  induction h with
  | nil => simp
  | separator hrest ih =>
    rw [List.infix_cons_iff, not_or]
    constructor
    · intro hprefix
      -- after its separator a row has ended
      cases hrest with
      | nil => simp at hprefix
      | other hother =>
        simp only [List.cons_prefix_cons] at hprefix
        apply ne_of_isSeparator hother hseparator hprefix.2.1.symm
    · exact ih
  | other hother _ ih =>
    rw [List.infix_cons_iff, not_or]
    constructor
    · intro hprefix
      rw [List.cons_prefix_cons] at hprefix
      apply ne_of_isSeparator hother hseparator hprefix.1.symm
    · exact ih

/-- A text is joined if its separators are single and all the same. -/
theorem of_not_infix (honly : ∀ c ∈ cs, isSeparator c = true → c = separator)
    (hsingle : ¬ [separator, separator] <:+: cs)
    (hhead : inside = true → ∀ c ∈ cs.head?, isSeparator c = false) :
  Joined separator inside cs
  := by
  induction cs generalizing inside with
  | nil => apply nil
  | cons c rest ih =>
    obtain ⟨hc, hrest⟩ := List.forall_mem_cons.1 honly
    rw [List.infix_cons_iff, not_or] at hsingle
    cases hkind : isSeparator c with
    | false =>
      apply other hkind
      apply ih hrest hsingle.2
      intro h
      cases h
    | true =>
      obtain rfl := hc hkind
      cases inside with
      | true => exact absurd rfl (ne_of_isSeparator (hhead rfl c rfl) hkind)
      | false =>
        apply Joined.separator
        apply ih hrest hsingle.2
        intro _ d hd
        rw [Bool.eq_false_iff]
        intro hnext
        -- a second separator would make a pair with the first
        cases rest with
        | nil => cases hd
        | cons e rest =>
          obtain rfl : e = d := Option.some.inj hd
          obtain rfl := hrest e List.mem_cons_self hnext
          apply hsingle.1
          simp

/-- Joining again changes the separator at most. -/
theorem joinSeparators_eq_map (h : Joined separator inside cs)
    (hseparator : isSeparator separator = true) (next : Char) :
  joinSeparators next inside cs = cs.map (replaced separator next)
  := by
  induction h with
  | nil => rfl
  | separator _ ih =>
    rw [joinSeparators, if_pos hseparator, List.map_cons, ih]
    simp [replaced]
  | other hother _ ih =>
    rw [joinSeparators, List.map_cons, ih, hother]
    simp [replaced, ne_of_isSeparator hother hseparator]

/-- A row without separators may stand before a joined text. -/
theorem append_of_others {row : List Char} (hrow : ∀ c ∈ row, isSeparator c = false)
    (hne : row ≠ []) (h : Joined separator false cs) :
  Joined separator inside (row ++ cs)
  := by
  induction row generalizing inside with
  | nil => exact absurd rfl hne
  | cons c row ih =>
    obtain ⟨hc, hrow⟩ := List.forall_mem_cons.1 hrow
    apply other hc
    cases row with
    | nil => exact h
    | cons d row => apply ih hrow (List.cons_ne_nil d row)

/-- Lower-casing leaves a text joined: no separator comes or goes. -/
theorem lowerAfter (h : Joined separator inside cs) (hseparator : isSeparator separator = true)
    (before : List Char) :
  Joined separator inside (Text.lowerAfter before cs)
  := by
  induction h generalizing before with
  | nil => apply nil
  | separator _ ih =>
    rw [Text.lowerAfter_cons, (inert_of_isSeparator hseparator).lowered_eq]
    apply Joined.separator (ih _)
  | other hother _ ih =>
    rw [Text.lowerAfter_cons]
    apply append_of_others _ (Text.lowered_ne_nil _ _ _) (ih _)
    intro d hd
    rw [Bool.eq_false_iff]
    intro hsep
    apply ne_of_isSeparator hother hsep ((inert_of_isSeparator hsep).eq_of_mem_lowered hd)

end Joined

/-- The separator of a style shows only where a row of separators was. -/
theorem map_replaced_joinSeparators {a : Char} (ha : isSeparator a = true) (b : Char)
    (inside : Bool) (cs : List Char) :
  (joinSeparators a inside cs).map (replaced a b) = joinSeparators b inside cs
  := by
  fun_induction joinSeparators a inside cs with
  | case1 => rfl
  | case2 c rest hc ih => simp [joinSeparators, hc, ih]
  | case3 inside c rest hc hinside ih => simp [joinSeparators, hc, hinside, ih, replaced]
  | case4 inside c rest hc ih =>
    have hne : c ≠ a := ne_of_isSeparator (Bool.eq_false_iff.2 hc) ha
    simp [joinSeparators, hc, ih, replaced, hne]

/-! ### Text without capitals -/

theorem not_isCapital_of_lowerChar {c : Char} (h : Text.lowerChar c = [c]) :
  isCapital c = false
  := by
  rw [Bool.eq_false_iff]
  intro hcapital
  apply Text.not_holds_capitals h
  apply Text.capitals_holds_iff.2
  simpa [isCapital] using hcapital

theorem markWhere_boundary_eq_self {cs : List Char} (h : ∀ c ∈ cs, isCapital c = false) :
  markWhere boundary cs = cs
  := by
  induction cs with
  | nil => rfl
  | cons x cs ih =>
    obtain ⟨-, hcs⟩ := List.forall_mem_cons.1 h
    rw [markWhere_cons_of_not, ih hcs]
    rintro y rest rfl
    have hy := hcs y List.mem_cons_self
    simp [boundary, wordEnds, acronymEnds, hy]

/-! ### Text in a style -/

/-- A text in lower case whose separators are single and all the same. -/
structure Styled (separator : Char) (s : String) : Prop where
  lowerChar_self : ∀ c ∈ s.toList, Text.lowerChar c = [c]
  eq_of_isSeparator : ∀ c ∈ s.toList, isSeparator c = true → c = separator
  not_infix : ¬ [separator, separator] <:+: s.toList

theorem toList_delimited (separator : Char) (s : String) :
  (delimited separator s).toList =
    Text.lowerAfter [] (joinSeparators separator false (markWhere boundary s.toList))
  := by
  rw [delimited, markWords_markAcronyms, String.toList_ofList, Text.lowerChars]

section

variable {a b : Char} (ha : isSeparator a = true) (hb : isSeparator b = true)

include ha

theorem styled_delimited (s : String) :
  Styled a (delimited a s)
  := by
  have hjoined : Joined a false (delimited a s).toList := by
    rw [toList_delimited]
    apply (Joined.of_joinSeparators a false _).lowerAfter ha
  constructor
  · intro c hc
    rw [toList_delimited] at hc
    apply Text.lowerChar_of_mem_lowerAfter hc
  · intro c
    apply hjoined.eq_of_mem
  · apply hjoined.not_infix ha

include hb

/-- Two styles of a text differ in the separator alone. -/
theorem map_replaced_delimited (s : String) :
  (delimited a s).map (replaced a b) = delimited b s
  := by
  rw [← String.toList_inj, String.toList_map, toList_delimited, toList_delimited,
    ← map_replaced_joinSeparators ha b]
  symm
  apply Text.lowerAfter_map_replaced (inert_of_isSeparator ha) (inert_of_isSeparator hb) []

/-- A text in a style stays as it is, but for the separator. -/
theorem Styled.delimited_eq_map {s : String} (h : Styled a s) :
  delimited b s = s.map (replaced a b)
  := by
  have hjoined : Joined a false s.toList :=
    Joined.of_not_infix h.eq_of_isSeparator h.not_infix (by simp)
  have hcapital : ∀ c ∈ s.toList, isCapital c = false := by
    intro c hc
    apply not_isCapital_of_lowerChar (h.lowerChar_self c hc)
  have hmap : Text.lowerAfter [] (s.toList.map (replaced a b)) =
      (Text.lowerAfter [] s.toList).map (replaced a b) :=
    Text.lowerAfter_map_replaced (inert_of_isSeparator ha) (inert_of_isSeparator hb) [] s.toList
  rw [← String.toList_inj, String.toList_map, toList_delimited,
    markWhere_boundary_eq_self hcapital, hjoined.joinSeparators_eq_map ha, hmap,
    Text.lowerAfter_eq_self h.lowerChar_self]

/-- A text in a style becomes the same text in another. -/
theorem delimited_delimited (s : String) :
  delimited b (delimited a s) = delimited b s
  := by
  rw [(styled_delimited ha s).delimited_eq_map ha hb, map_replaced_delimited ha hb]

omit hb

/-- The texts that stay as they are. -/
theorem delimited_eq_self_iff {s : String} :
  delimited a s = s ↔ Styled a s
  := by
  constructor
  · intro h
    rw [← h]
    apply styled_delimited ha
  · intro h
    rw [h.delimited_eq_map ha ha, ← String.toList_inj, String.toList_map, Text.replaced_self,
      List.map_id]

end

/-- In a text in a style there is neither another separator nor a blank nor a capital. -/
theorem Styled.plain {a b : Char} {s : String} (h : Styled a s) (hblank : Text.isBlank a = false)
    (hb : isSeparator b = true) (hne : b ≠ a) :
  ∀ c ∈ s.toList, c ≠ b ∧ Text.isBlank c = false ∧ isCapital c = false
  := by
  intro c hc
  have hseparator := h.eq_of_isSeparator c hc
  constructor
  · rintro rfl
    exact hne (hseparator hb)
  constructor
  · rw [Bool.eq_false_iff]
    intro hc
    rw [← hseparator (by simp [isSeparator, hc]), hc] at hblank
    cases hblank
  · apply not_isCapital_of_lowerChar (h.lowerChar_self c hc)

/-- The texts in a style are those that stay as they are.  A text in one style becomes the same as
the text it came from in either style; the styles of a text differ in the separator alone; and a
text in a style has no other separator, no blank, no capital of `A` to `Z` and no two separators
side by side. -/
theorem styles_stable (s : String) :
  ((kebabCase s = s ↔ Styled '-' s) ∧ (snakeCase s = s ↔ Styled '_' s)) ∧
    (kebabCase (kebabCase s) = kebabCase s ∧ snakeCase (snakeCase s) = snakeCase s) ∧
    (kebabCase (snakeCase s) = kebabCase s ∧ snakeCase (kebabCase s) = snakeCase s) ∧
    snakeCase s = (kebabCase s).map (replaced '-' '_') ∧
    ((∀ c ∈ (kebabCase s).toList, c ≠ '_' ∧ Text.isBlank c = false ∧ isCapital c = false) ∧
      ¬ ['-', '-'] <:+: (kebabCase s).toList) ∧
    (∀ c ∈ (snakeCase s).toList, c ≠ '-' ∧ Text.isBlank c = false ∧ isCapital c = false) ∧
      ¬ ['_', '_'] <:+: (snakeCase s).toList
  := by
  have hhyphen : isSeparator '-' = true := rfl
  have hunderscore : isSeparator '_' = true := rfl
  have hkebab : Styled '-' (kebabCase s) := styled_delimited hhyphen s
  have hsnake : Styled '_' (snakeCase s) := styled_delimited hunderscore s
  constructor
  · exact ⟨delimited_eq_self_iff hhyphen, delimited_eq_self_iff hunderscore⟩
  constructor
  · constructor
    · apply delimited_delimited hhyphen hhyphen
    · apply delimited_delimited hunderscore hunderscore
  constructor
  · constructor
    · apply delimited_delimited hunderscore hhyphen
    · apply delimited_delimited hhyphen hunderscore
  constructor
  · symm
    apply map_replaced_delimited hhyphen hunderscore
  constructor
  · exact ⟨hkebab.plain (by decide) hunderscore (by decide), hkebab.not_infix⟩
  · exact ⟨hsnake.plain (by decide) hhyphen (by decide), hsnake.not_infix⟩

end WireSchemas.Naming
