import WireSchemas.Proofs.Toml.Quoted
import WireSchemas.Toml.Value

/-!
# Values of TOML read back

A text is `Written` for a value when it is read back as that value before a line end, a comma or a
closing bracket.  The texts of strings and truth values are, and so is a list of such texts.
-/

namespace WireSchemas.Toml

/-- What may follow a written value. -/
def Closes (after : List Char) : Prop :=
  after.head? = some '\n' ∨ after.head? = some ',' ∨ after.head? = some ']'

/-- A character that blanks, line ends, comments and the end of a list do not begin with. -/
def BeginsValue (c : Char) : Prop :=
  isGap c = false ∧ c ≠ '\n' ∧ c ≠ '\r' ∧ c ≠ '#' ∧ c ≠ ']'

instance (c : Char) : Decidable (BeginsValue c) :=
  inferInstanceAs (Decidable (_ ∧ _))

/-- A text of a value that can stand after a key and in a list. -/
structure Written (depth : Nat) (w : List Char) (d : Datum) : Prop where
  begins : ∃ c cs, w = c :: cs ∧ BeginsValue c
  read : ∀ after, Closes after → value? depth (w ++ after) = some (d, after)

/-! ### Strings and truth values -/

theorem exists_stringIn (form : StringForm) (cs : List Char) :
  ∃ c ds, stringIn form cs = c :: ds ∧ (c = '"' ∨ c = '\'')
  := by
  cases form with
  | basic => exact ⟨_, _, rfl, .inl rfl⟩
  | literal => exact ⟨_, _, rfl, .inr rfl⟩
  | basicLines => exact ⟨_, _, rfl, .inl rfl⟩
  | literalLines => exact ⟨_, _, rfl, .inr rfl⟩

/-- A string or a word is read the same at every depth. -/
theorem value?_of_ne {c : Char} (hlist : c ≠ '[') (htable : c ≠ '\x7b') (depth : Nat)
    (cs : List Char) :
  value? depth (c :: cs) = value? 0 (c :: cs)
  := by
  cases depth with
  | zero => rfl
  | succ depth => simp [value?, hlist, htable]

theorem Closes.head?_ne {after : List Char} (h : Closes after) {c : Char}
    (hc : c ∉ ['\n', ',', ']']) :
  after.head? ≠ some c
  := by
  intro heq
  rw [Closes, heq] at h
  simp_all

theorem written_text (depth : Nat) (s : String) :
  Written depth (stringText s) (.text s)
  := by
  obtain ⟨c, cs, hw, hc⟩ := exists_stringIn (.of s.toList) s.toList
  refine ⟨⟨c, cs, hw, ?_⟩, ?_⟩
  · rcases hc with rfl | rfl <;> decide
  · intro after hafter
    have hread : string? (stringText s ++ after) = some (s, after) :=
      string?_stringText s (hafter.head?_ne (by decide)) (hafter.head?_ne (by decide))
    have hdepth : value? depth (stringText s ++ after) = value? 0 (stringText s ++ after) := by
      rw [stringText, hw]
      rcases hc with rfl | rfl <;> exact value?_of_ne (by decide) (by decide) depth _
    rw [hdepth, value?, hread]

theorem Closes.takeWhile_word {after : List Char} (h : Closes after) {word : List Char}
    (hword : word.all isWordChar = true) :
  (word ++ after).takeWhile isWordChar = word ∧ (word ++ after).dropWhile isWordChar = after
  := by
  rw [List.all_eq_true] at hword
  rw [List.takeWhile_append_of_pos hword, List.dropWhile_append_of_pos hword]
  rcases after with _ | ⟨c, after⟩
  · simp
  · have hc : isWordChar c = false := by
      rcases h with h | h | h
      all_goals
        cases h
        decide
    simp [hc]

/-- A word that is no moment is read to its end. -/
theorem value?_word {c : Char} {word after : List Char} (hlist : c ≠ '[') (htable : c ≠ '\x7b')
    (hword : (c :: word).all isWordChar = true) (hafter : Closes after)
    (hstring : string? (c :: word ++ after) = none)
    (hmoment : moment? (c :: word) isWordChar after = none) (depth : Nat) :
  value? depth (c :: word ++ after) = (plainWord? (c :: word)).map fun d => (d, after)
  := by
  obtain ⟨htake, hdrop⟩ := hafter.takeWhile_word hword
  have hdepth : value? depth (c :: word ++ after) = value? 0 (c :: word ++ after) :=
    value?_of_ne hlist htable depth (word ++ after)
  rw [hdepth, value?, hstring]
  simp only [word?, htake, hdrop, hmoment]

theorem written_bool (depth : Nat) (b : Bool) :
  Written depth (boolText b) (.bool b)
  := by
  cases b with
  | false =>
    refine ⟨⟨_, _, rfl, by decide⟩, fun after hafter => ?_⟩
    exact value?_word (by decide) (by decide) (by decide) hafter rfl rfl depth
  | true =>
    refine ⟨⟨_, _, rfl, by decide⟩, fun after hafter => ?_⟩
    exact value?_word (by decide) (by decide) (by decide) hafter rfl rfl depth

/-! ### Lists -/

theorem skipLines_append {w : List Char} (h : ∃ c cs, w = c :: cs ∧ BeginsValue c)
    (after : List Char) :
  skipLines false (w ++ after) = w ++ after
  := by
  obtain ⟨c, cs, rfl, hgap, hfeed, hreturn, hmark, -⟩ := h
  rw [List.cons_append, skipLines.eq_def]
  simp [hgap, hfeed, hreturn, hmark]

theorem elementLine_eq (w : List Char) :
  elementLine w = '\n' :: ' ' :: ' ' :: ' ' :: ' ' :: (w ++ [','])
  := rfl

theorem skipLines_elementLine {w : List Char} (h : ∃ c cs, w = c :: cs ∧ BeginsValue c)
    (after : List Char) :
  skipLines false (elementLine w ++ after) = w ++ ',' :: after
  := by
  simp [elementLine_eq, skipLines, isGap, skipLines_append h]

/-- An element is read where it stands, and what follows it decides how the list goes on. -/
theorem elements?_of_written {depth : Nat} {w : List Char} {d : Datum} (h : Written depth w d)
    {rest : List Char} (hrest : Closes rest) {cs : List Char}
    (hcs : skipLines false cs = w ++ rest) (fuel : Nat) :
  elements? (value? depth) (fuel + 1) cs =
    match skipLines false rest with
    | ',' :: more => do
      let (ds, after) ← elements? (value? depth) fuel more
      return (d :: ds, after)
    | ']' :: after => return ([d], after)
    | _ => none
  := by
  have hread := h.read rest hrest
  obtain ⟨c, ds, rfl, hc⟩ := h.begins
  rw [List.cons_append] at hcs hread
  rw [elements?, hcs]
  split
  · next heq => exact absurd (List.cons.inj heq).1 hc.2.2.2.2
  · rw [hread]
    rfl

theorem elements?_elementLine {depth : Nat} {w : List Char} {d : Datum} (h : Written depth w d)
    (fuel : Nat) (rest : List Char) :
  elements? (value? depth) (fuel + 1) (elementLine w ++ rest) =
    (elements? (value? depth) fuel rest).map fun (ds, after) => (d :: ds, after)
  := by
  rw [elements?_of_written h (.inr (.inl rfl)) (skipLines_elementLine h.begins rest)]
  have hmark : skipLines false (',' :: rest) = ',' :: rest := by simp [skipLines, isGap]
  simp only [hmark]
  cases elements? (value? depth) fuel rest <;> rfl

section Elements

variable {α : Type} {depth : Nat} {w : α → List Char} {d : α → Datum}

/-- The lines of written elements, up to the closing bracket. -/
theorem elements?_elementLines {as : List α} (h : ∀ a ∈ as, Written depth (w a) (d a))
    {fuel : Nat} (hfuel : as.length < fuel) (after : List Char) :
  elements? (value? depth) fuel ((as.map w).flatMap elementLine ++ '\n' :: ']' :: after) =
    some (as.map d, after)
  := by
  induction as generalizing fuel with
  | nil =>
    obtain ⟨fuel, rfl⟩ := Nat.exists_eq_succ_of_ne_zero (Nat.ne_of_gt hfuel)
    simp [elements?, skipLines, isGap]
  | cons a as ih =>
    obtain ⟨ha, has⟩ := List.forall_mem_cons.1 h
    obtain ⟨fuel, rfl⟩ := Nat.exists_eq_succ_of_ne_zero (Nat.ne_of_gt (Nat.zero_lt_of_lt hfuel))
    rw [List.map_cons, List.flatMap_cons, List.append_assoc, elements?_elementLine ha,
      ih has (Nat.lt_of_succ_lt_succ hfuel)]
    rfl

theorem length_le_elementLines (ws : List (List Char)) :
  ws.length ≤ (ws.flatMap elementLine).length
  := by
  induction ws with
  | nil => exact Nat.le_refl 0
  | cons w ws ih =>
    rw [List.flatMap_cons, List.length_append, List.length_cons, elementLine_eq, List.length_cons]
    omega

/-- A list of written elements is written. -/
theorem written_list {as : List α} (h : ∀ a ∈ as, Written depth (w a) (d a)) :
  Written (depth + 1) (listText (as.map w)) (.list (as.map d))
  := by
  match as, h with
  | [], _ =>
    refine ⟨⟨_, _, rfl, by decide⟩, fun after _ => ?_⟩
    simp [listText, value?, elements?, skipLines, isGap]
  | [a], h =>
    refine ⟨⟨_, _, rfl, by decide⟩, fun after _ => ?_⟩
    have ha := h a List.mem_cons_self
    have hstart := skipLines_append ha.begins (']' :: after)
    have hread := elements?_of_written ha (.inr (.inr rfl)) hstart
    simp [listText, value?, hread, skipLines, isGap]
  | a :: b :: as, h =>
    refine ⟨⟨_, _, rfl, by decide⟩, fun after _ => ?_⟩
    generalize has : a :: b :: as = all at h ⊢
    have htext : listText (all.map w) =
        '[' :: ((all.map w).flatMap elementLine ++ ['\n', ']']) := by
      rw [← has]
      rfl
    have hfuel : all.length < (listText (all.map w) ++ after).length := by
      have hle := length_le_elementLines (all.map w)
      rw [List.length_map] at hle
      simp only [htext, List.length_append, List.length_cons]
      omega
    have hread := elements?_elementLines h hfuel after
    rw [htext] at hread ⊢
    simp only [List.cons_append, List.append_assoc, List.nil_append, value?] at hread ⊢
    rw [hread]
    rfl

end Elements

end WireSchemas.Toml
