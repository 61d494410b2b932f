import WireSchemas.Naming.Strategy
import WireSchemas.Proofs.Naming.Stability
import WireSchemas.Proofs.Text.Sigma

/-!
# Segments of dotted names

No pass over the words of a text looks across a dot, so a dotted text is made of the segments that
the passes make of its own: `joined_append_dot`.  Lower-casing alone looks across it, for the form
of a capital sigma.  What it sees there is the same before and after the passes, `startEdge_joined`
and `endEdge_joined`, so the edges of two segments tell whether a style takes them one by one.
-/

namespace WireSchemas.Naming

open Text (Edge apart edge endEdge isCased isCaseIgnorable startEdge startsCased unsigma)

/-! ### Passes at a dot -/

/-- No word ends at a dot, on either side of it. -/
theorem boundary_dot (c : Char) (cs : List Char) :
  boundary '.' c cs = false ∧ boundary c '.' cs = false
  := by
  have hword : endsWord '.' = false := by decide +kernel
  have hcapital : isCapital '.' = false := by decide
  rw [endsWord] at hword
  simp [boundary, wordEnds, acronymEnds, hword, hcapital]

theorem markWhere_boundary_append_dot (xs ys : List Char) :
  markWhere boundary (xs ++ '.' :: ys) = markWhere boundary xs ++ '.' :: markWhere boundary ys
  := by
  induction xs with
  | nil =>
    apply markWhere_cons_of_not
    intro y rest _
    apply (boundary_dot y rest).1
  | cons x xs ih =>
    cases xs with
    | nil =>
      rw [List.cons_append, markWhere_cons_of_not]
      · rw [ih]
        rfl
      · rintro _ _ ⟨⟩
        apply (boundary_dot x ys).2
    | cons y rest =>
      have hrule : boundary x y (rest ++ '.' :: ys) = boundary x y rest := by
        have hsmall : startsSmall (rest ++ '.' :: ys) = startsSmall rest := by
          cases rest <;> rfl
        rw [boundary, boundary, acronymEnds, acronymEnds, hsmall]
        rfl
      rw [List.cons_append] at ih
      simp only [List.cons_append, markWhere, hrule, ih]
      split <;> rfl

theorem joinSeparators_append_dot (separator : Char) (inside : Bool) (xs ys : List Char) :
  joinSeparators separator inside (xs ++ '.' :: ys) =
    joinSeparators separator inside xs ++ '.' :: joinSeparators separator false ys
  := by
  induction xs generalizing inside with
  | nil =>
    have hdot : isSeparator '.' = false := by decide
    simp [joinSeparators, hdot]
  | cons c xs ih =>
    rw [List.cons_append, joinSeparators, joinSeparators, ih, ih]
    cases isSeparator c <;> cases inside <;> rfl

/-! ### Passes over words -/

/-- The words of a text with one separator between them, where `inside` tells whether the text
continues a row of separators. -/
def joined (separator : Char) (inside : Bool) (cs : List Char) : List Char :=
  joinSeparators separator inside (markWhere boundary cs)

/-- The ranges of the letters `A` to `Z` and `a` to `z` and of the digits. -/
def wordRanges : List (Nat × Nat) :=
  (0x41, 0x5A) :: (0x61, 0x7A) :: Text.zeroDigits.map fun first => (first, first + 9)

theorem exists_wordRange {c : Char} (h : endsWord c = true ∨ isCapital c = true) :
  ∃ p ∈ wordRanges, p.1 ≤ c.toNat ∧ c.toNat ≤ p.2
  := by
  rcases h with h | h
  · rcases Bool.or_eq_true_iff.1 h with h | h
    · exact ⟨(0x61, 0x7A), by simp [wordRanges], isSmall_iff.1 h⟩
    · simp only [Text.isDecimalDigit, List.any_eq_true, Bool.and_eq_true, decide_eq_true_eq] at h
      obtain ⟨first, hmem, hle, hlt⟩ := h
      refine ⟨(first, first + 9), ?_, hle, Nat.le_of_lt_succ hlt⟩
      simp [wordRanges, hmem]
  · exact ⟨(0x41, 0x5A), by simp [wordRanges], isCapital_iff.1 h⟩

/-- Letters and digits are no separators, and the search of a sigma for letters stops at them. -/
theorem stops_of_word {c : Char} (h : endsWord c = true ∨ isCapital c = true) :
  isSeparator c = false ∧ isCaseIgnorable c = false ∧ c ≠ 'Σ'
  := by
  have hclear : wordRanges.all (fun p =>
      separatorRanges.all (apart p) && Text.caseIgnorableRanges.all (apart p) &&
        apart p (0x3A3, 0x3A3)) = true := by
    decide +kernel
  obtain ⟨p, hp, hc⟩ := exists_wordRange h
  have hp := List.all_eq_true.1 hclear p hp
  simp only [Bool.and_eq_true] at hp
  obtain ⟨⟨hseparators, hignorable⟩, hsigma⟩ := hp
  refine ⟨?_, Text.inRanges_eq_false hignorable hc, ?_⟩
  · rw [Bool.eq_false_iff]
    intro hseparator
    obtain ⟨q, hq, hcq⟩ := exists_separatorRange hseparator
    apply Text.not_mem_of_apart (List.all_eq_true.1 hseparators q hq) hc hcq
  · rintro rfl
    apply Text.not_mem_of_apart hsigma hc
    decide

theorem isCased_of_isCapital {c : Char} (h : isCapital c = true) :
  isCased c = true
  := by
  have hmem : (0x41, 0x5A) ∈ Text.casedRanges := by decide +kernel
  simp only [isCased, Text.inRanges, List.any_eq_true, Bool.and_eq_true, decide_eq_true_eq]
  exact ⟨_, hmem, isCapital_iff.1 h⟩

theorem word_of_boundary {x y : Char} {rest : List Char} (h : boundary x y rest = true) :
  (endsWord x = true ∨ isCapital x = true) ∧ isCapital y = true
  := by
  simp only [boundary, wordEnds, acronymEnds, Bool.or_eq_true, Bool.and_eq_true] at h
  rw [endsWord, Bool.or_eq_true]
  tauto

/-- What the passes make of a character: a separator joins the row that it stands in; an end of a
word gets a separator behind it; and any other character stays. -/
theorem joined_cons (separator : Char) (inside : Bool) (c : Char) (cs : List Char) :
  isSeparator c = true ∧
      joined separator inside (c :: cs) =
        (if inside then joined separator true cs else separator :: joined separator true cs) ∨
    (∃ y rest, cs = y :: rest ∧ boundary c y rest = true ∧
      joined separator inside (c :: cs) = c :: separator :: joined separator true cs) ∨
    isSeparator c = false ∧ joined separator inside (c :: cs) = c :: joined separator false cs
  := by
  by_cases hrule : ∃ y rest, cs = y :: rest ∧ boundary c y rest = true
  · obtain ⟨y, rest, rfl, hrule⟩ := hrule
    have hc : isSeparator c = false := (stops_of_word (word_of_boundary hrule).1).1
    have hmark : isSeparator '_' = true := rfl
    right
    left
    use y, rest, rfl, hrule
    rw [joined, markWhere_cons_of_rule hrule]
    simp [joinSeparators, hc, hmark, joined]
  · have hcons : markWhere boundary (c :: cs) = c :: markWhere boundary cs := by
      apply markWhere_cons_of_not
      intro y rest hcs
      rw [Bool.eq_false_iff]
      intro h
      apply hrule ⟨y, rest, hcs, h⟩
    cases hc : isSeparator c with
    | true =>
      left
      simp [joined, hcons, joinSeparators, hc]
    | false =>
      right
      right
      simp [joined, hcons, joinSeparators, hc]

/-! ### Edges -/

/-- A separator is a gap at the edge. -/
theorem edge_separator {found : Bool} {c : Char} (h : isSeparator c = true) (cs : List Char) :
  edge found (c :: cs) = .gap
  := by
  have hc := inert_of_isSeparator h
  apply Text.edge_eq_gap_iff.2
  rw [Text.startsCased_cons, hc.not_isCaseIgnorable, hc.not_isCased]
  rfl

/-- A capital is a letter at the edge. -/
theorem edge_capital {found : Bool} {c : Char} (h : isCapital c = true) (cs : List Char) :
  edge found (c :: cs) = .letter
  := by
  obtain ⟨-, hignorable, hsigma⟩ := stops_of_word (.inr h)
  simp [edge, hignorable, hsigma, isCased_of_isCapital h]

/-- Behind a letter or a digit it does not matter what stands there. -/
theorem edge_word {found : Bool} {c : Char} (h : endsWord c = true ∨ isCapital c = true)
    (cs cs' : List Char) :
  edge found (c :: cs) = edge found (c :: cs')
  := by
  obtain ⟨-, hignorable, hsigma⟩ := stops_of_word h
  simp [edge, hignorable, hsigma]

/-- What is beyond a character matters only by its edge. -/
theorem edge_cons_congr {found : Bool} {cs cs' : List Char} (h : edge found cs = edge found cs')
    (c : Char) :
  edge found (c :: cs) = edge found (c :: cs')
  := by
  have hcased : startsCased cs = startsCased cs' := by
    rw [Bool.eq_iff_iff, ← not_iff_not, Bool.not_eq_true, Bool.not_eq_true,
      ← Text.edge_eq_gap_iff, ← Text.edge_eq_gap_iff, h]
  rw [edge, edge, h, hcased]

section

variable {separator : Char} (hseparator : isSeparator separator = true)

include hseparator

/-- The passes leave the edge at the start of a text. -/
theorem startEdge_joined (cs : List Char) :
  startEdge (joined separator false cs) = startEdge cs
  := by
  simp only [startEdge]
  induction cs with
  | nil => rfl
  | cons c cs ih =>
    rcases joined_cons separator false c cs with ⟨hc, h⟩ | ⟨y, rest, rfl, hrule, h⟩ | ⟨-, h⟩
    · rw [h, edge_separator hc]
      apply edge_separator hseparator
    · rw [h]
      apply edge_word (word_of_boundary hrule).1
    · rw [h]
      apply edge_cons_congr ih

/-- The passes leave the edge at the end of a text, whatever it is that the text continues, if that
has the same edge before and after the passes.  What the passes put in comes before a capital. -/
theorem edge_reverse_joined {inside : Bool} {cs before before' : List Char}
    (hinside : inside = true → edge true before' = .gap)
    (hbefore : edge true before' = edge true before ∨ ∃ y ∈ cs.head?, isCapital y = true) :
  edge true ((joined separator inside cs).reverse ++ before') = edge true (cs.reverse ++ before)
  := by
  induction cs generalizing inside before before' with
  | nil => simpa [joined, markWhere, joinSeparators] using hbefore
  | cons c cs ih =>
    have hreverse : (c :: cs).reverse ++ before = cs.reverse ++ c :: before := by simp
    rw [hreverse]
    rcases joined_cons separator inside c cs with ⟨hc, h⟩ | ⟨y, rest, rfl, hrule, h⟩ | ⟨-, h⟩
    · have hgap : edge true (c :: before) = .gap := edge_separator hc before
      cases inside with
      | true =>
        rw [h, if_pos rfl]
        apply ih hinside (.inl ((hinside rfl).trans hgap.symm))
      | false =>
        have hgap' : edge true (separator :: before') = .gap := edge_separator hseparator before'
        rw [h, if_neg Bool.false_ne_true, List.reverse_cons, List.append_assoc]
        apply ih (fun _ => hgap') (.inl (hgap'.trans hgap.symm))
    · rw [h, List.reverse_cons, List.reverse_cons, List.append_assoc, List.append_assoc]
      apply ih
      · intro _
        apply edge_separator hseparator
      · exact .inr ⟨y, rfl, (word_of_boundary hrule).2⟩
    · have hnext : edge true (c :: before') = edge true (c :: before) := by
        rcases hbefore with hbefore | ⟨y, hy, hcapital⟩
        · apply edge_cons_congr hbefore
        · obtain rfl : c = y := Option.some.inj hy
          rw [edge_capital hcapital, edge_capital hcapital]
      rw [h, List.reverse_cons, List.append_assoc]
      apply ih (fun h => by cases h) (.inl hnext)

theorem endEdge_joined (cs : List Char) :
  endEdge (joined separator false cs) = endEdge cs
  := by
  have h : edge true ((joined separator false cs).reverse ++ []) = edge true (cs.reverse ++ []) :=
    edge_reverse_joined hseparator (fun h => by cases h) (.inl rfl)
  rw [List.append_nil, List.append_nil] at h
  apply h

/-! ### Segments -/

omit hseparator in
theorem toList_append_dot (a b : String) :
  (a ++ "." ++ b).toList = a.toList ++ '.' :: b.toList
  := by
  simp [String.toList_append]

omit hseparator in
theorem joined_append_dot (xs ys : List Char) :
  joined separator false (xs ++ '.' :: ys) =
    joined separator false xs ++ '.' :: joined separator false ys
  := by
  rw [joined, markWhere_boundary_append_dot, joinSeparators_append_dot]
  rfl

/-- A style takes the segments on either side of a dot one by one just when their edges are
apart. -/
theorem delimited_append_dot_iff (a b : String) :
  delimited separator (a ++ "." ++ b) = delimited separator a ++ "." ++ delimited separator b ↔
    (endEdge a.toList).Apart (startEdge b.toList)
  := by
  have hdot : isCaseIgnorable '.' = true := by decide +kernel
  rw [← String.toList_inj, toList_append_dot, toList_delimited, toList_delimited, toList_delimited,
    toList_append_dot, ← joined, joined_append_dot, ← joined, ← joined,
    ← endEdge_joined hseparator a.toList, ← startEdge_joined hseparator b.toList]
  apply Text.lowerChars_append_cons_iff hdot rfl

omit hseparator in
/-- But for the form of sigmas, a style takes the segments on either side of a dot one by one. -/
theorem unsigma_delimited_append_dot (a b : String) :
  unsigma (delimited separator (a ++ "." ++ b)).toList =
    unsigma (delimited separator a ++ "." ++ delimited separator b).toList
  := by
  rw [toList_append_dot, toList_delimited, toList_delimited, toList_delimited, toList_append_dot,
    ← joined, joined_append_dot, ← joined, ← joined]
  apply Text.unsigma_lowerChars_append_cons rfl

end

/-- The edges of two segments let every style take the segments one by one. -/
def SegmentsApart (a b : String) : Prop :=
  (endEdge a.toList).Apart (startEdge b.toList)

instance (a b : String) : Decidable (SegmentsApart a b) :=
  inferInstanceAs (Decidable (Edge.Apart _ _))

/-- The styles take the segments on either side of a dot one by one just when the edges of the
segments are apart.  Without capital sigmas they always are; and if they are not, the two results
differ in the forms of sigmas alone.  The same holds of a scope made of a fixed one and a
category. -/
theorem segments_one_by_one (a b : String) :
  (kebabCase (a ++ "." ++ b) = kebabCase a ++ "." ++ kebabCase b ↔ SegmentsApart a b) ∧
  (snakeCase (a ++ "." ++ b) = snakeCase a ++ "." ++ snakeCase b ↔ SegmentsApart a b) ∧
  ('Σ' ∉ a.toList ∧ 'Σ' ∉ b.toList → SegmentsApart a b) ∧
  unsigma (kebabCase (a ++ "." ++ b)).toList =
    unsigma (kebabCase a ++ "." ++ kebabCase b).toList ∧
  unsigma (snakeCase (a ++ "." ++ b)).toList =
    unsigma (snakeCase a ++ "." ++ snakeCase b).toList ∧
  ∀ (id : ScopeId) (output : OutputFormat) (type : MessageType) (streamName : String),
    let scope := Strategy.scopeFor ⟨.scopeCategory id, output⟩ type streamName
    let category := categoryOf streamName
    (kebabCase scope = kebabCase id.text ++ "." ++ kebabCase category ↔
      SegmentsApart id.text category) ∧
    (snakeCase scope = snakeCase id.text ++ "." ++ snakeCase category ↔
      SegmentsApart id.text category)
  := by
  have hhyphen : isSeparator '-' = true := rfl
  have hunderscore : isSeparator '_' = true := rfl
  refine ⟨delimited_append_dot_iff hhyphen a b, delimited_append_dot_iff hunderscore a b, ?_,
    unsigma_delimited_append_dot a b, unsigma_delimited_append_dot a b, ?_⟩
  · rintro ⟨ha, hb⟩
    apply Edge.apart_of_ne_sigma
    · apply Text.edge_ne_sigma
      simpa using ha
    · apply Text.edge_ne_sigma hb
  · intro id output type streamName scope category
    exact ⟨delimited_append_dot_iff hhyphen id.text category,
      delimited_append_dot_iff hunderscore id.text category⟩

theorem plainSegments_one_by_one :
  ('Σ' ∉ "Identity".toList ∧ 'Σ' ∉ "UserRegistered".toList) ∧
    kebabCase ("Identity" ++ "." ++ "UserRegistered") =
      kebabCase "Identity" ++ "." ++ kebabCase "UserRegistered"
  := by
  have hplain : 'Σ' ∉ "Identity".toList ∧ 'Σ' ∉ "UserRegistered".toList := by decide
  obtain ⟨hkebab, -, hapart, -⟩ := segments_one_by_one "Identity" "UserRegistered"
  exact ⟨hplain, hkebab.2 (hapart hplain)⟩

/-- A sigma at the end of a word sees the letter behind the dot. -/
theorem not_segments_one_by_one :
  ¬ (∀ a b : String, kebabCase (a ++ "." ++ b) = kebabCase a ++ "." ++ kebabCase b) ∧
    ¬ ∀ a b : String, snakeCase (a ++ "." ++ b) = snakeCase a ++ "." ++ snakeCase b
  := by
  have hkebab : kebabCase ("ΑΣ" ++ "." ++ "Α") ≠ kebabCase "ΑΣ" ++ "." ++ kebabCase "Α" := by
    decide +kernel
  have hsnake : snakeCase ("ΑΣ" ++ "." ++ "Α") ≠ snakeCase "ΑΣ" ++ "." ++ snakeCase "Α" := by
    decide +kernel
  exact ⟨fun h => hkebab (h _ _), fun h => hsnake (h _ _)⟩

end WireSchemas.Naming
