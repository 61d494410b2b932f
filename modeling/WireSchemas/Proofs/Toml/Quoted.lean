import WireSchemas.Toml.Quoted
import WireSchemas.Toml.Writer

/-!
# Strings of TOML read back

A written string is read back in whichever form it has, as long as no other mark follows it:
`string?_stringText`.  The forms that write characters as they are fit only some texts, and the form
that is chosen for a text fits it.
-/

namespace WireSchemas.Toml

/-! ### Characters of basic strings -/

/-- The ways in which a character is written in a basic string, on one line or on several. -/
inductive Spelt (lines : Bool) (c : Char) : List Char → Prop where
  | plain (hmark : c ≠ '"') (hslash : c ≠ '\\')
    (hcontrol : isControl c = true → lines = true ∧ c = '\n') : Spelt lines c [c]
  | letter {e : Char} (he : escaped? e = some c) : Spelt lines c ['\\', e]
  | code (hcontrol : isControl c = true) :
    Spelt lines c ['\\', 'u', '0', '0', upperDigit (c.toNat / 16), upperDigit (c.toNat % 16)]

theorem spelt_escape {lines : Bool} {c : Char} (hc : c ≠ '"') :
  Spelt lines c (escape lines c)
  := by
  by_cases hshort : c ∈ ['\x08', '\t', '\x0c', '\r', '\\']
  · simp only [List.mem_cons, List.not_mem_nil, or_false] at hshort
    rcases hshort with rfl | rfl | rfl | rfl | rfl
    all_goals
      apply Spelt.letter
      decide
  · simp only [List.mem_cons, List.not_mem_nil, or_false, not_or] at hshort
    obtain ⟨hback, htab, hfeed, hreturn, hslash⟩ := hshort
    simp only [escape, hback, htab, hfeed, hreturn, hslash, if_false]
    by_cases hline : c = '\n'
    · subst hline
      cases lines with
      | false =>
        apply Spelt.letter
        decide
      | true => exact .plain hc hslash fun _ => ⟨rfl, rfl⟩
    · rw [if_neg hline]
      split
      · next hcontrol => apply Spelt.code hcontrol
      · next hcontrol => exact .plain hc hslash fun h => absurd h hcontrol

theorem codePoint?_digits :
  ∀ n < 0x80, codePoint? ['0', '0', upperDigit (n / 16), upperDigit (n % 16)] =
    some (Char.ofNat n)
  := by
  decide

theorem codePoint?_of_isControl {c : Char} (h : isControl c = true) :
  codePoint? ['0', '0', upperDigit (c.toNat / 16), upperDigit (c.toNat % 16)] = some c
  := by
  have hlt : c.toNat < 0x80 := by
    simp only [isControl, Bool.and_eq_true, Bool.or_eq_true, decide_eq_true_eq] at h
    omega
  rw [codePoint?_digits _ hlt, Char.ofNat_toNat]

theorem mem_of_escaped? {e c : Char} (h : escaped? e = some c) :
  e ∈ ['"', '\\', 'b', 't', 'n', 'f', 'r']
  := by
  apply Decidable.byContradiction
  intro hmem
  simp only [List.mem_cons, List.not_mem_nil, or_false, not_or] at hmem
  simp [escaped?, hmem] at h

variable {c : Char} {w : List Char}

/-- A character is read back from a string on one line. -/
theorem Spelt.basic? (h : Spelt false c w) (rest : List Char) :
  Toml.basic? (w ++ rest) = (Toml.basic? rest).map fun (cs, after) => (c :: cs, after)
  := by
  cases h with
  | plain hmark hslash hcontrol =>
    have hplain : isControl c = false := by
      rw [Bool.eq_false_iff]
      exact fun h => Bool.false_ne_true (hcontrol h).1
    rw [List.singleton_append, Toml.basic?.eq_def]
    split <;> simp_all
  | letter he =>
    have hmem := mem_of_escaped? he
    simp only [List.mem_cons, List.not_mem_nil, or_false] at hmem
    rcases hmem with rfl | rfl | rfl | rfl | rfl | rfl | rfl
    all_goals
      simp [Toml.basic?, he]
      cases Toml.basic? rest <;> rfl
  | code hcontrol =>
    simp [Toml.basic?, codePoint?_of_isControl hcontrol]
    cases Toml.basic? rest <;> rfl

/-- A character is read back from a string on several lines. -/
theorem Spelt.basicLines? (h : Spelt true c w) (rest : List Char) :
  Toml.basicLines? false (w ++ rest) =
    (Toml.basicLines? false rest).map fun (cs, after) => (c :: cs, after)
  := by
  cases h with
  | plain hmark hslash hcontrol =>
    have hreturn : c ≠ '\r' := by
      rintro rfl
      exact absurd (hcontrol rfl).2 (by decide)
    have hplain : c ≠ '\n' → isControl c = false := by
      intro hline
      rw [Bool.eq_false_iff]
      exact fun h => hline (hcontrol h).2
    rw [List.singleton_append, Toml.basicLines?.eq_def]
    split <;> simp_all
  | letter he =>
    have hmem := mem_of_escaped? he
    simp only [List.mem_cons, List.not_mem_nil, or_false] at hmem
    rcases hmem with rfl | rfl | rfl | rfl | rfl | rfl | rfl
    all_goals
      simp [Toml.basicLines?, endsLine, newline?, skipGap, isGap, he]
      cases Toml.basicLines? false rest <;> rfl
  | code hcontrol =>
    simp [Toml.basicLines?, codePoint?_of_isControl hcontrol]
    cases Toml.basicLines? false rest <;> rfl

/-- A spelt character begins with no mark and no carriage return, and with a line feed only if it is
one. -/
theorem Spelt.exists_head {lines : Bool} (h : Spelt lines c w) :
  ∃ d ds, w = d :: ds ∧ d ≠ '"' ∧ d ≠ '\r' ∧ (d = '\n' → c = '\n')
  := by
  cases h with
  | plain hmark hslash hcontrol =>
    refine ⟨c, [], rfl, hmark, ?_, id⟩
    rintro rfl
    exact absurd (hcontrol rfl).2 (by decide)
  | letter he => exact ⟨_, _, rfl, by decide, by decide, fun h => absurd h (by decide)⟩
  | code hcontrol => exact ⟨_, _, rfl, by decide, by decide, fun h => absurd h (by decide)⟩

/-! ### Strings on one line -/

theorem basic?_escapeAll (cs after : List Char) :
  basic? (escapeAll false 0 cs ++ '"' :: after) = some (cs, after)
  := by
  induction cs with
  | nil => simp [escapeAll, basic?]
  | cons c cs ih =>
    rw [escapeAll]
    split
    · next hmark =>
      subst hmark
      have hquote : Spelt false '"' ['\\', '"'] := .letter (by decide)
      have hread := hquote.basic? (escapeAll false 0 cs ++ '"' :: after)
      simpa [ih] using hread
    · next hmark =>
      rw [List.append_assoc, (spelt_escape hmark).basic?, ih]
      rfl

theorem literal?_append {cs : List Char} (h : ∀ c ∈ cs, c ≠ '\'' ∧ isControl c = false)
    (after : List Char) :
  literal? (cs ++ '\'' :: after) = some (cs, after)
  := by
  induction cs with
  | nil => simp [literal?]
  | cons c cs ih =>
    obtain ⟨⟨hmark, hcontrol⟩, hcs⟩ := List.forall_mem_cons.1 h
    simp [literal?, hmark, hcontrol, ih hcs]

/-! ### Strings on several lines -/

/-- One or two marks before the closing three belong to the text. -/
theorem extraMarks_append (mark : Char) {k : Nat} (hk : k ≤ 2) {after : List Char}
    (h : after.head? ≠ some mark) :
  extraMarks mark (List.replicate k mark ++ after) = (List.replicate k mark, after)
  := by
  match k, hk with
  | 0, _ => rcases after with _ | ⟨a, _ | ⟨b, after⟩⟩ <;> simp_all [extraMarks]
  | 1, _ => cases after <;> simp_all [extraMarks]
  | 2, _ => simp [extraMarks, List.replicate]

/-- Only a bare mark is written as one. -/
theorem of_escapeAll_eq_mark {lines : Bool} {marks : Nat} {cs x y : List Char}
    (h : escapeAll lines marks (c :: cs) ++ x = '"' :: y) :
  c = '"' ∧ (lines = true ∧ marks < 2) ∧ escapeAll lines (marks + 1) cs ++ x = y
  := by
  rw [escapeAll] at h
  split at h
  · next hmark =>
    split at h
    · next hbare =>
      rw [List.cons_append, List.cons.injEq] at h
      exact ⟨hmark, hbare, h.2⟩
    · rw [List.cons_append, List.cons.injEq] at h
      cases h.1
  · next hmark =>
    have hspelt : Spelt lines c (escape lines c) := spelt_escape hmark
    obtain ⟨d, ds, hd, hne, -⟩ := hspelt.exists_head
    rw [hd, List.append_assoc, List.cons_append, List.cons.injEq] at h
    cases hne h.1

/-- An escaped text begins with a line feed only if the text does. -/
theorem escapeAll_head {lines : Bool} {marks : Nat} {d : Char} {cs x ds : List Char}
    (h : escapeAll lines marks (c :: cs) ++ x = d :: ds) :
  d ≠ '\r' ∧ (d = '\n' → c = '\n')
  := by
  rw [escapeAll] at h
  split at h
  · split at h
    all_goals
      cases (List.cons.inj h).1
      exact ⟨by decide, fun h => absurd h (by decide)⟩
  · next hmark =>
    have hspelt : Spelt lines c (escape lines c) := spelt_escape hmark
    obtain ⟨e, es, he, -, hreturn, hfeed⟩ := hspelt.exists_head
    rw [he, List.append_assoc, List.cons_append, List.cons.injEq] at h
    exact h.1 ▸ ⟨hreturn, hfeed⟩

/-- A mark that two others do not follow is read as it stands. -/
theorem basicLines?_mark {cs : List Char} (h : ∀ more, cs ≠ '"' :: '"' :: more) :
  basicLines? false ('"' :: cs) =
    (basicLines? false cs).map fun (cs, after) => ('"' :: cs, after)
  := by
  simp [basicLines?, h, isGap, isControl]

/-- The closing marks of a string on several lines, `marks` bare ones before them. -/
theorem basicLines?_escapeAll (cs : List Char) (marks : Nat) {after : List Char}
    (h : after.head? ≠ some '"') :
  basicLines? false (escapeAll true marks cs ++ '"' :: '"' :: '"' :: after) = some (cs, after)
  := by
  induction cs generalizing marks with
  | nil => simpa [escapeAll, basicLines?] using extraMarks_append '"' (Nat.zero_le 2) h
  | cons c cs ih =>
    rw [escapeAll]
    split
    · next hmark =>
      subst hmark
      split
      · by_cases hclosing : ∃ more, escapeAll true (marks + 1) cs ++ '"' :: '"' :: '"' :: after =
            '"' :: '"' :: more
        · -- so the closing marks follow this one, or one more
          obtain ⟨more, hmore⟩ := hclosing
          cases cs with
          | nil =>
            have hextra := extraMarks_append '"' (Nat.le_succ 1) h
            simpa [escapeAll, basicLines?] using hextra
          | cons d cs =>
            obtain ⟨rfl, ⟨-, hbare⟩, hcs⟩ := of_escapeAll_eq_mark hmore
            cases cs with
            | nil =>
              have hextra := extraMarks_append '"' (Nat.le_refl 2) h
              simpa [escapeAll, hbare, basicLines?, List.replicate] using hextra
            | cons e cs =>
              obtain ⟨-, ⟨-, hthird⟩, -⟩ := of_escapeAll_eq_mark hcs
              omega
        · rw [List.cons_append, basicLines?_mark (not_exists.1 hclosing), ih]
          rfl
      · have hquote : Spelt true '"' ['\\', '"'] := .letter (by decide)
        have hread := hquote.basicLines? (escapeAll true 0 cs ++ '"' :: '"' :: '"' :: after)
        simpa [ih] using hread
    · next hmark =>
      rw [List.append_assoc, (spelt_escape hmark).basicLines?, ih]
      rfl

theorem le_longestRow (mark : Char) (current : Nat) (cs : List Char) :
  current ≤ longestRow mark current cs
  := by
  induction cs generalizing current with
  | nil => exact Nat.le_refl current
  | cons c cs ih =>
    rw [longestRow]
    split
    · exact Nat.le_of_succ_le (ih (current + 1))
    · exact Nat.le_max_left current _

theorem longestRow_mono (mark : Char) {m n : Nat} (h : m ≤ n) (cs : List Char) :
  longestRow mark m cs ≤ longestRow mark n cs
  := by
  induction cs generalizing m n with
  | nil => exact h
  | cons c cs ih =>
    rw [longestRow, longestRow]
    split
    · exact ih (Nat.succ_le_succ h)
    · omega

theorem longestRow_tail_le (mark c : Char) (cs : List Char) :
  longestRow mark 0 cs ≤ longestRow mark 0 (c :: cs)
  := by
  rw [longestRow]
  split
  · exact longestRow_mono mark (Nat.zero_le _) cs
  · exact Nat.le_max_right 0 _

theorem literalLines?_mark {cs : List Char} (h : ∀ more, cs ≠ '\'' :: '\'' :: more) :
  literalLines? ('\'' :: cs) =
    (literalLines? cs).map fun (cs, after) => ('\'' :: cs, after)
  := by
  simp [literalLines?, h, isControl]

theorem literalLines?_append {cs : List Char}
    (hplain : ∀ c ∈ cs, isControl c = true → c = '\n') (hrow : longestRow '\'' 0 cs ≤ 2)
    {after : List Char} (h : after.head? ≠ some '\'') :
  literalLines? (cs ++ '\'' :: '\'' :: '\'' :: after) = some (cs, after)
  := by
  induction cs with
  | nil => simpa [literalLines?] using extraMarks_append '\'' (Nat.zero_le 2) h
  | cons c cs ih =>
    obtain ⟨hc, hcs⟩ := List.forall_mem_cons.1 hplain
    have hread := ih hcs (Nat.le_trans (longestRow_tail_le '\'' c cs) hrow)
    by_cases hmark : c = '\''
    · subst hmark
      by_cases hclosing : ∃ more, cs ++ '\'' :: '\'' :: '\'' :: after = '\'' :: '\'' :: more
      · obtain ⟨more, hmore⟩ := hclosing
        match cs, hmore with
        | [], _ =>
          have hextra := extraMarks_append '\'' (Nat.le_succ 1) h
          simpa [literalLines?] using hextra
        | [d], hmore =>
          obtain rfl : d = '\'' := (List.cons.inj hmore).1
          have hextra := extraMarks_append '\'' (Nat.le_refl 2) h
          simpa [literalLines?, List.replicate] using hextra
        | d :: e :: cs, hmore =>
          -- three marks in a row are too many
          obtain ⟨rfl, hrest⟩ := List.cons.inj hmore
          obtain ⟨rfl, -⟩ := List.cons.inj hrest
          have hthree := le_longestRow '\'' (0 + 1 + 1 + 1) cs
          simp only [longestRow, if_true] at hrow
          omega
      · rw [List.cons_append, literalLines?_mark (not_exists.1 hclosing), hread]
        rfl
    · have hreturn : c ≠ '\r' := by
        rintro rfl
        exact absurd (hc rfl) (by decide)
      have hshown : (isControl c && c != '\n') = false := by
        cases hcontrol : isControl c with
        | false => rfl
        | true => simp [hc hcontrol]
      simp [literalLines?, hmark, hreturn, hshown, hread]

/-! ### All forms -/

/-- The texts that a form can show. -/
def StringForm.Fits : StringForm → List Char → Prop
  | basic, _ => True
  | literal, cs => ∀ c ∈ cs, c ≠ '\'' ∧ isControl c = false
  | basicLines, _ => True
  | literalLines, cs => (∀ c ∈ cs, isControl c = true → c = '\n') ∧ longestRow '\'' 0 cs ≤ 2

theorem not_mem_of_longestRow_eq_zero {mark : Char} {cs : List Char}
    (h : longestRow mark 0 cs = 0) :
  mark ∉ cs
  := by
  induction cs with
  | nil => simp
  | cons c cs ih =>
    have htail := ih (by
      have hle := longestRow_tail_le mark c cs
      omega)
    rw [longestRow] at h
    split at h
    · have hle := le_longestRow mark (0 + 1) cs
      omega
    · next hne => simp [htail, Ne.symm hne]

theorem plain_iff (cs : List Char) :
  (!cs.any fun c => isControl c && c != '\n') = true ↔ ∀ c ∈ cs, isControl c = true → c = '\n'
  := by
  simp

/-- The form that is chosen for a text can show it. -/
theorem StringForm.fits_of (cs : List Char) :
  (StringForm.of cs).Fits cs
  := by
  rw [StringForm.of]
  split
  · trivial
  · split
    · next hliteral =>
      rw [Bool.and_eq_true, Bool.and_eq_true, plain_iff] at hliteral
      obtain ⟨⟨hplain, hline⟩, hrow⟩ := hliteral
      have hmark := not_mem_of_longestRow_eq_zero (of_decide_eq_true hrow)
      have hone : '\n' ∉ cs := by simpa using hline
      intro c hc
      refine ⟨?_, ?_⟩
      · rintro rfl
        exact hmark hc
      · rw [Bool.eq_false_iff]
        intro hcontrol
        cases hplain c hc hcontrol
        exact hone hc
    · split
      · trivial
      · split
        · next hlines =>
          rw [Bool.and_eq_true, plain_iff] at hlines
          exact ⟨hlines.1, of_decide_eq_true hlines.2⟩
        · split <;> trivial

theorem string?_of_line {cs : List Char} (hbasic : ∀ rest, cs ≠ '"' :: '"' :: '"' :: rest)
    (hliteral : ∀ rest, cs ≠ '\'' :: '\'' :: '\'' :: rest) :
  string? cs = lineString? cs
  := by
  rw [string?.eq_def]
  split
  · exact absurd rfl (hbasic _)
  · exact absurd rfl (hliteral _)
  · rfl

/-- No line end is dropped from a text that has none. -/
theorem dropNewline_leadingLine {cs body : List Char}
    (h : ∀ d ds, body = d :: ds → d ≠ '\r' ∧ (d = '\n' → '\n' ∈ cs)) :
  dropNewline (leadingLine cs ++ body) = body
  := by
  rw [leadingLine]
  split
  · rfl
  · next hline =>
    rw [List.contains_iff_mem] at hline
    cases body with
    | nil => rfl
    | cons d ds =>
      obtain ⟨hreturn, hfeed⟩ := h d ds rfl
      have hne : d ≠ '\n' := mt hfeed hline
      simp [dropNewline, newline?, hreturn, hne]

/-- A written string is read back in each form that can show it. -/
theorem string?_stringIn {form : StringForm} {cs after : List Char} (hfits : form.Fits cs)
    (hquote : after.head? ≠ some '"') (hapostrophe : after.head? ≠ some '\'') :
  string? (stringIn form cs ++ after) = some (String.ofList cs, after)
  := by
  cases form with
  | basic =>
    have htriple : ∀ rest, '"' :: (escapeAll false 0 cs ++ '"' :: after) ≠
        '"' :: '"' :: '"' :: rest := by
      intro rest heq
      have htail := (List.cons.inj heq).2
      cases cs with
      | nil =>
        apply hquote
        rw [(List.cons.inj htail).2]
        rfl
      | cons c cs => cases (of_escapeAll_eq_mark htail).2.1.1
    have hread := string?_of_line htriple (by simp)
    simpa [stringIn, lineString?, basic?_escapeAll] using hread
  | literal =>
    have htriple : ∀ rest, '\'' :: (cs ++ '\'' :: after) ≠ '\'' :: '\'' :: '\'' :: rest := by
      intro rest heq
      have htail := (List.cons.inj heq).2
      cases cs with
      | nil =>
        apply hapostrophe
        rw [(List.cons.inj htail).2]
        rfl
      | cons c cs => exact (hfits c List.mem_cons_self).1 (List.cons.inj htail).1
    have hread := string?_of_line (by simp) htriple
    simpa [stringIn, lineString?, literal?_append hfits] using hread
  | basicLines =>
    have hbody : dropNewline (leadingLine cs ++ (escapeAll true 0 cs ++ '"' :: '"' :: '"' :: after))
        = escapeAll true 0 cs ++ '"' :: '"' :: '"' :: after := by
      apply dropNewline_leadingLine
      intro d ds hd
      cases cs with
      | nil =>
        cases (List.cons.inj hd).1
        decide
      | cons c cs =>
        obtain ⟨hreturn, hfeed⟩ := escapeAll_head hd
        exact ⟨hreturn, fun h => hfeed h ▸ List.mem_cons_self⟩
    simp [stringIn, string?, hbody, basicLines?_escapeAll cs 0 hquote]
  | literalLines =>
    obtain ⟨hplain, hrow⟩ := hfits
    have hbody : dropNewline (leadingLine cs ++ (cs ++ '\'' :: '\'' :: '\'' :: after)) =
        cs ++ '\'' :: '\'' :: '\'' :: after := by
      apply dropNewline_leadingLine
      intro d ds hd
      cases cs with
      | nil =>
        cases (List.cons.inj hd).1
        decide
      | cons c cs =>
        obtain rfl : c = d := (List.cons.inj hd).1
        refine ⟨?_, fun h => h ▸ List.mem_cons_self⟩
        rintro rfl
        exact absurd (hplain '\r' List.mem_cons_self rfl) (by decide)
    simp [stringIn, string?, hbody, literalLines?_append hplain hrow hapostrophe]

/-- A written string is read back. -/
theorem string?_stringText (s : String) {after : List Char} (hquote : after.head? ≠ some '"')
    (hapostrophe : after.head? ≠ some '\'') :
  string? (stringText s ++ after) = some (s, after)
  := by
  rw [stringText, string?_stringIn (StringForm.fits_of s.toList) hquote hapostrophe,
    String.ofList_toList]

end WireSchemas.Toml
