import WireSchemas.Proofs.Text.LowerCase

/-!
# Sigmas at the edges of a text

The form of a capital sigma depends on the letters around it, and the search for them passes over
ignorable characters, of which the dot is one.  So texts on either side of such a character are put
in lower case one by one unless a sigma at the edge of one of them sees a letter of the other:
`lowerChars_append_cons_iff`.  But for the form of its sigmas a text is always lower-cased one
character at a time, `unsigma_lowerAfter_append`.
-/

namespace WireSchemas.Text

/-- What a text shows to the sigmas beyond one of its edges. -/
inductive Edge where
  /-- No letter: the search for one ends at some other character or with the text. -/
  | gap
  /-- A letter with a case, whose form is settled. -/
  | letter
  /-- A capital sigma whose form depends on what it sees beyond the edge. -/
  | sigma
deriving DecidableEq

namespace Edge

/-- No sigma depends on what stands at the other edge: there is a gap at one of them, or a settled
letter at both. -/
def Apart (e e' : Edge) : Prop :=
  e = gap ∨ e' = gap ∨ e = letter ∧ e' = letter

instance (e e' : Edge) : Decidable (e.Apart e') :=
  inferInstanceAs (Decidable (_ ∨ _ ∨ _ ∧ _))

theorem apart_of_ne_sigma {e e' : Edge} (h : e ≠ sigma) (h' : e' ≠ sigma) :
  e.Apart e'
  := by
  cases e <;> cases e' <;> simp_all [Apart]

end Edge

/-- The edge of a text that is read from there on.  A sigma depends on what is beyond the edge if
the search on its other side comes out as `found`. -/
def edge (found : Bool) : List Char → Edge
  | [] => .gap
  | c :: rest =>
    if isCaseIgnorable c then edge found rest
    else if c = 'Σ' ∧ startsCased rest = found then .sigma
    else if isCased c then .letter else .gap

/-- The edge at the start of a text: a sigma there ends a word, if a letter stands before it, when
no letter follows. -/
def startEdge (cs : List Char) : Edge :=
  edge false cs

/-- The edge at the end of a text: a sigma there ends a word, if no letter follows, when a letter
stands before it. -/
def endEdge (cs : List Char) : Edge :=
  edge true cs.reverse

/-! ### The search for a letter -/

theorem not_isCaseIgnorable_sigma :
  isCaseIgnorable 'Σ' = false
  := by
  decide +kernel

theorem ne_sigma_of_isCaseIgnorable {c : Char} (h : isCaseIgnorable c = true) :
  c ≠ 'Σ'
  := by
  rintro rfl
  rw [not_isCaseIgnorable_sigma] at h
  cases h

theorem isCased_sigma :
  isCased 'Σ' = true
  := by
  decide +kernel

theorem startsCased_cons (c : Char) (cs : List Char) :
  startsCased (c :: cs) = if isCaseIgnorable c then startsCased cs else isCased c
  := by
  unfold startsCased
  rw [List.dropWhile_cons]
  cases isCaseIgnorable c <;> rfl

theorem startsCased_append (xs ys : List Char) :
  startsCased (xs ++ ys) = if xs.all isCaseIgnorable then startsCased ys else startsCased xs
  := by
  induction xs with
  | nil => rfl
  | cons c xs ih =>
    rw [List.cons_append, startsCased_cons, startsCased_cons, ih, List.all_cons]
    cases isCaseIgnorable c <;> rfl

theorem startsCased_of_all {cs : List Char} (h : cs.all isCaseIgnorable = true) :
  startsCased cs = false
  := by
  have happend := startsCased_append cs []
  rw [List.append_nil, if_pos h] at happend
  apply happend

/-- A gap is where the search for a letter fails. -/
theorem edge_eq_gap_iff {found : Bool} {cs : List Char} :
  edge found cs = .gap ↔ startsCased cs = false
  := by
  induction cs with
  | nil => simp [edge, startsCased]
  | cons c cs ih =>
    rw [edge, startsCased_cons]
    split
    · apply ih
    · split
      · next hsigma => simp [hsigma.1, isCased_sigma]
      · cases isCased c <;> simp

/-- A sigma is at the edge just when it is the first character that is not ignorable, and what is
found behind it makes it depend on what is beyond the edge. -/
theorem edge_cons_eq_sigma_iff {found : Bool} {c : Char} (h : isCaseIgnorable c = false)
    {cs : List Char} :
  edge found (c :: cs) = .sigma ↔ c = 'Σ' ∧ startsCased cs = found
  := by
  rw [edge, h, if_neg Bool.false_ne_true]
  split
  · next hsigma => simp [hsigma]
  · next hsigma =>
    simp only [hsigma, iff_false]
    cases isCased c <;> simp

/-- A text without a capital sigma has none at its edges. -/
theorem edge_ne_sigma {found : Bool} {cs : List Char} (h : 'Σ' ∉ cs) :
  edge found cs ≠ .sigma
  := by
  induction cs with
  | nil => simp [edge]
  | cons c cs ih =>
    rw [List.mem_cons, not_or] at h
    cases hc : isCaseIgnorable c with
    | true =>
      rw [edge, if_pos hc]
      apply ih h.2
    | false =>
      rw [ne_eq, edge_cons_eq_sigma_iff hc]
      rintro ⟨hsigma, -⟩
      apply h.1 hsigma.symm

theorem edge_append {found : Bool} {xs : List Char} (h : xs.all isCaseIgnorable = true)
    (ys : List Char) :
  edge found (xs ++ ys) = edge found ys
  := by
  induction xs with
  | nil => rfl
  | cons c xs ih =>
    simp only [List.all_cons, Bool.and_eq_true] at h
    rw [List.cons_append, edge, if_pos h.1, ih h.2]

/-! ### Sigmas and what they see -/

variable {before before' after after' xs ys : List Char}

/-- A character has the same form in two places unless it is a sigma that sees a difference. -/
theorem lowered_eq_iff_after {c : Char} :
  lowered before c after = lowered before c after' ↔
    c ≠ 'Σ' ∨ startsCased before = false ∨ startsCased after = startsCased after'
  := by
  unfold lowered
  by_cases hc : c = 'Σ'
  · simp only [hc, if_true, lowerSigma, ne_eq, not_true_eq_false, false_or, List.cons.injEq,
      and_true]
    cases startsCased before <;> cases startsCased after <;> cases startsCased after' <;> decide
  · simp [hc]

theorem lowered_eq_iff_before {c : Char} :
  lowered before c after = lowered before' c after ↔
    c ≠ 'Σ' ∨ startsCased after = true ∨ startsCased before = startsCased before'
  := by
  unfold lowered
  by_cases hc : c = 'Σ'
  · simp only [hc, if_true, lowerSigma, ne_eq, not_true_eq_false, false_or, List.cons.injEq,
      and_true]
    cases startsCased after <;> cases startsCased before <;> cases startsCased before' <;> decide
  · simp [hc]

theorem length_lowered (before before' : List Char) (c : Char) (after after' : List Char) :
  (lowered before c after).length = (lowered before' c after').length
  := by
  unfold lowered
  split <;> rfl

/-- Of what stands before a text its lower-casing sees only whether it ends in a letter. -/
theorem lowerAfter_congr (h : startsCased before = startsCased before') (cs : List Char) :
  lowerAfter before cs = lowerAfter before' cs
  := by
  induction cs generalizing before before' with
  | nil => rfl
  | cons c cs ih =>
    have hnext : startsCased (c :: before) = startsCased (c :: before') := by
      rw [startsCased_cons, startsCased_cons, h]
    rw [lowerAfter_cons, lowerAfter_cons, ih hnext, lowered_eq_iff_before.2 (.inr (.inr h))]

/-- A letter before a text shows in the text if it starts with a sigma that depends on it. -/
theorem lowerAfter_eq_iff (h : startsCased before = true) (h' : startsCased before' = false)
    (cs : List Char) :
  lowerAfter before cs = lowerAfter before' cs ↔ startEdge cs ≠ .sigma
  := by
  induction cs generalizing before before' with
  | nil => simp [lowerAfter, startEdge, edge]
  | cons c cs ih =>
    rw [lowerAfter_cons, lowerAfter_cons]
    cases hc : isCaseIgnorable c with
    | true =>
      have hnext : startsCased (c :: before) = true := by rw [startsCased_cons, if_pos hc, h]
      have hnext' : startsCased (c :: before') = false := by
        rw [startsCased_cons, if_pos hc, h']
      have hedge : startEdge (c :: cs) = startEdge cs := by rw [startEdge, edge, if_pos hc]; rfl
      rw [hedge, ← ih hnext hnext',
        lowered_eq_iff_before.2 (.inl (ne_sigma_of_isCaseIgnorable hc)), List.append_right_inj]
    | false =>
      have hnext : startsCased (c :: before) = startsCased (c :: before') := by
        rw [startsCased_cons, startsCased_cons, hc]
        rfl
      rw [lowerAfter_congr hnext, List.append_left_inj, lowered_eq_iff_before, h, h', startEdge]
      simp only [ne_eq, edge_cons_eq_sigma_iff hc, not_and_or, Bool.not_eq_false,
        Bool.true_eq_false, or_false]

/-! ### Texts on either side of an ignorable character -/

section

variable {d : Char} (hd : isCaseIgnorable d = true) (hself : lowerChar d = [d])

include hd

theorem startsCased_append_cons (xs ys : List Char) :
  startsCased (xs ++ d :: ys) = if xs.all isCaseIgnorable then startsCased ys else startsCased xs
  := by
  rw [startsCased_append, startsCased_cons, if_pos hd]

include hself

/-- Behind the reversed text `before`, the texts on either side of an ignorable character are put
in lower case one by one just when neither has a sigma that sees a letter of the other. -/
theorem lowerAfter_append_cons_iff (before xs ys : List Char) :
  lowerAfter before (xs ++ d :: ys) = lowerAfter before xs ++ d :: lowerAfter [] ys ↔
    (xs.all isCaseIgnorable = true ∨ edge true (xs.reverse ++ before) ≠ .sigma ∨
        startsCased ys = false) ∧
      (startsCased (xs.reverse ++ before) = false ∨ startEdge ys ≠ .sigma)
  := by
  induction xs generalizing before with
  | nil =>
    have hsee : startsCased (d :: before) = startsCased before := by
      rw [startsCased_cons, if_pos hd]
    have hne : d ≠ 'Σ' := ne_sigma_of_lowerChar hself
    rw [List.nil_append, lowerAfter_cons, lowered, if_neg hne, hself, List.singleton_append,
      lowerAfter, List.nil_append, List.cons.injEq]
    simp only [List.all_nil, true_or, true_and, List.reverse_nil, List.nil_append]
    cases hbefore : startsCased before with
    | true =>
      rw [lowerAfter_eq_iff (hsee.trans hbefore) rfl]
      simp
    | false =>
      have hfresh : startsCased (d :: before) = startsCased [] := hsee.trans hbefore
      simp [lowerAfter_congr hfresh]
  | cons c xs ih =>
    have hreverse : (c :: xs).reverse ++ before = xs.reverse ++ c :: before := by simp
    rw [List.cons_append, lowerAfter_cons, lowerAfter_cons, List.append_assoc,
      List.append_eq_append_iff_of_size_eq_left (length_lowered ..), ih, lowered_eq_iff_after,
      startsCased_append_cons hd, hreverse, ← and_assoc]
    apply and_congr_left'
    cases hall : xs.all isCaseIgnorable with
    | true =>
      have hskip : xs.reverse.all isCaseIgnorable = true := by rw [List.all_reverse, hall]
      rw [edge_append hskip, startsCased_of_all hall, List.all_cons, hall, Bool.and_true]
      simp only [true_or, and_true, if_true]
      cases hc : isCaseIgnorable c with
      | true => simp [ne_sigma_of_isCaseIgnorable hc]
      | false =>
        simp only [ne_eq, edge_cons_eq_sigma_iff hc, not_and_or, Bool.not_eq_true,
          Bool.false_eq_true, false_or, or_assoc]
    | false => simp [hall]

/-- Texts on either side of an ignorable character are put in lower case one by one just when their
edges are apart. -/
theorem lowerChars_append_cons_iff (xs ys : List Char) :
  lowerChars (xs ++ d :: ys) = lowerChars xs ++ d :: lowerChars ys ↔
    (endEdge xs).Apart (startEdge ys)
  := by
  have hgap : xs.all isCaseIgnorable = true → endEdge xs = .gap := by
    intro hall
    apply edge_eq_gap_iff.2 (startsCased_of_all _)
    rw [List.all_reverse, hall]
  have hstart : startsCased ys = false ↔ startEdge ys = .gap := edge_eq_gap_iff.symm
  have hend : startsCased xs.reverse = false ↔ endEdge xs = .gap := edge_eq_gap_iff.symm
  simp only [lowerChars]
  rw [lowerAfter_append_cons_iff hd hself, List.append_nil, hstart, hend, ← endEdge, Edge.Apart]
  cases hx : endEdge xs <;> cases startEdge ys <;> simp_all

end

/-! ### All forms of a sigma as one -/

/-- The text with the final form of a sigma replaced by the other one. -/
def unsigma (cs : List Char) : List Char :=
  cs.map (replaced 'ς' 'σ')

theorem unsigma_lowered (before before' : List Char) (c : Char) (after after' : List Char) :
  unsigma (lowered before c after) = unsigma (lowered before' c after')
  := by
  unfold lowered
  split
  · rcases lowerSigma_cases before after with h | h <;>
      rcases lowerSigma_cases before' after' with h' | h' <;> rw [h, h'] <;> rfl
  · rfl

/-- But for the form of sigmas, every character is put in lower case on its own. -/
theorem unsigma_lowerAfter (before cs : List Char) :
  unsigma (lowerAfter before cs) = cs.flatMap fun c => unsigma (lowered [] c [])
  := by
  induction cs generalizing before with
  | nil => rfl
  | cons c cs ih =>
    have hc := unsigma_lowered before [] c cs []
    have hcs := ih (c :: before)
    simp only [unsigma] at hc hcs ⊢
    rw [lowerAfter_cons, List.map_append, hc, hcs, List.flatMap_cons]

theorem unsigma_append (xs ys : List Char) :
  unsigma (xs ++ ys) = unsigma xs ++ unsigma ys
  := List.map_append

/-- But for the form of sigmas, texts on either side of a character that stays are put in lower
case one by one. -/
theorem unsigma_lowerChars_append_cons {d : Char} (hself : lowerChar d = [d])
    (xs ys : List Char) :
  unsigma (lowerChars (xs ++ d :: ys)) = unsigma (lowerChars xs ++ d :: lowerChars ys)
  := by
  have hd : lowered [] d [] = [d] := by
    rw [lowered, if_neg (ne_sigma_of_lowerChar hself), hself]
  have hcons : ∀ cs, d :: cs = [d] ++ cs := fun _ => rfl
  rw [hcons ys, hcons (lowerChars ys), unsigma_append, unsigma_append]
  simp only [lowerChars, unsigma_lowerAfter, List.flatMap_append, List.flatMap_singleton, hd]

end WireSchemas.Text
