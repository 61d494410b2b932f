import Mathlib.Data.List.SplitBy
import WireSchemas.Naming.Case

/-!
# Word boundaries in one pass

The two passes that mark words, each of which goes on behind what it has taken in, come to one pass
that looks at two adjacent characters and the one after them: `markWords_markAcronyms`.  What is
taken in with one mark never hides the place of another, since a mark stands before a capital and
both kinds of boundary end there.
-/

namespace WireSchemas.Naming

/-! ### Local rules -/

/-- The text with a mark between adjacent characters where a rule says so, which sees the two
characters and what follows them. -/
def markWhere (rule : Char → Char → List Char → Bool) : List Char → List Char
  | x :: y :: rest =>
    if rule x y rest then x :: '_' :: markWhere rule (y :: rest)
    else x :: markWhere rule (y :: rest)
  | cs => cs

/-- The text begins with a small letter. -/
def startsSmall : List Char → Bool
  | c :: _ => isSmall c
  | [] => false

/-- A word ends between a small letter or a digit and a capital. -/
def wordEnds (x y : Char) (_ : List Char) : Bool :=
  (isSmall x || Text.isDecimalDigit x) && isCapital y

/-- An acronym ends between two capitals if the second begins a word. -/
def acronymEnds (x y : Char) (after : List Char) : Bool :=
  isCapital x && isCapital y && startsSmall after

/-- A word or an acronym ends between two characters. -/
def boundary (x y : Char) (after : List Char) : Bool :=
  wordEnds x y after || acronymEnds x y after

/-! ### Classes of characters -/

theorem isCapital_iff {c : Char} :
  isCapital c = true ↔ 0x41 ≤ c.toNat ∧ c.toNat ≤ 0x5A
  := by
  simp only [isCapital, Bool.and_eq_true, decide_eq_true_eq, Char.le_def, UInt32.le_iff_toNat_le]
  rfl

theorem isSmall_iff {c : Char} :
  isSmall c = true ↔ 0x61 ≤ c.toNat ∧ c.toNat ≤ 0x7A
  := by
  simp only [isSmall, Bool.and_eq_true, decide_eq_true_eq, Char.le_def, UInt32.le_iff_toNat_le]
  rfl

theorem isSmall_of_isCapital {c : Char} (h : isCapital c = true) :
  isSmall c = false
  := by
  rw [Bool.eq_false_iff, ne_eq, isSmall_iff]
  have := isCapital_iff.1 h
  omega

theorem isCapital_of_isSmall {c : Char} (h : isSmall c = true) :
  isCapital c = false
  := by
  rw [Bool.eq_false_iff]
  intro hcapital
  rw [isSmall_of_isCapital hcapital] at h
  cases h

/-- A capital ends no word before it: it is neither a small letter nor a digit. -/
theorem endsWord_of_isCapital {c : Char} (h : isCapital c = true) :
  endsWord c = false
  := by
  have hdigits : ∀ first ∈ Text.zeroDigits, first + 10 ≤ 0x41 ∨ 0x5A < first := by decide
  have hcapital := isCapital_iff.1 h
  simp only [endsWord, Bool.or_eq_false_iff]
  constructor
  · apply isSmall_of_isCapital h
  · simp only [Text.isDecimalDigit, List.any_eq_false, Bool.and_eq_true, decide_eq_true_eq]
    intro first hfirst
    have := hdigits first hfirst
    omega

/-! ### The pass over words -/

variable {rule : Char → Char → List Char → Bool}

theorem markWhere_cons_of_not {x : Char} {cs : List Char}
    (h : ∀ y rest, cs = y :: rest → rule x y rest = false) :
  markWhere rule (x :: cs) = x :: markWhere rule cs
  := by
  cases cs with
  | nil => rfl
  | cons y rest => simp [markWhere, h y rest rfl]

theorem markWhere_cons_of_rule {x y : Char} {rest : List Char} (h : rule x y rest = true) :
  markWhere rule (x :: y :: rest) = x :: '_' :: markWhere rule (y :: rest)
  := by
  simp [markWhere, h]

/-- The pass that marks words sees all of them, though it goes on behind the capital of each: that
capital ends no word. -/
theorem markWords_eq (cs : List Char) :
  markWords cs = markWhere wordEnds cs
  := by
  fun_induction markWords cs with
  | case1 x y rest h ih =>
    have hcapital : isCapital y = true := (Bool.and_eq_true_iff.1 h).2
    have hend : ∀ z more, rest = z :: more → wordEnds y z more = false := by
      intro z more _
      simp only [wordEnds, Bool.and_eq_false_iff]
      exact .inl (endsWord_of_isCapital hcapital)
    rw [ih, markWhere_cons_of_rule h, markWhere_cons_of_not hend]
  | case2 x y rest h ih =>
    rw [ih]
    symm
    apply markWhere_cons_of_not
    rintro _ _ ⟨⟩
    apply Bool.eq_false_iff.2 h
  | case3 cs h =>
    cases cs with
    | nil => rfl
    | cons x rest =>
      cases rest with
      | nil => rfl
      | cons y rest => cases h x y rest rfl

/-! ### The pass over acronyms -/

/-- What is taken in with an acronym: capitals, and then a capital with a small letter. -/
theorem eq_of_acronym? {cs row after : List Char} {u l : Char}
    (h : acronym? cs = some (row, u, l, after)) :
  cs = row ++ u :: l :: after ∧ row ≠ [] ∧ (∀ c ∈ row, isCapital c = true) ∧
    isCapital u = true ∧ isSmall l = true
  := by
  induction cs generalizing row with
  | nil => cases h
  | cons a rest ih =>
    rw [acronym?] at h
    split at h
    · next ha =>
      split at h
      · next row' word hrest =>
        cases h
        obtain ⟨rfl, -, hrow, hword⟩ := ih hrest
        exact ⟨rfl, List.cons_ne_nil _ _, List.forall_mem_cons.2 ⟨ha, hrow⟩, hword⟩
      · obtain ⟨word, hword, h⟩ := Option.map_eq_some_iff.1 h
        cases h
        unfold wordStart? at hword
        split at hword
        · split at hword
          · next hstart =>
            cases hword
            obtain ⟨hu, hl⟩ := Bool.and_eq_true_iff.1 hstart
            exact ⟨rfl, List.cons_ne_nil _ _, by simpa using ha, hu, hl⟩
          · cases hword
        · cases hword
    · cases h

/-- Where no acronym is found, none ends behind the first character. -/
theorem acronymEnds_of_acronym?_eq_none {x y : Char} {rest : List Char}
    (h : acronym? (x :: y :: rest) = none) :
  acronymEnds x y rest = false
  := by
  rw [Bool.eq_false_iff]
  intro hend
  simp only [acronymEnds, Bool.and_eq_true] at hend
  obtain ⟨⟨hx, hy⟩, hsmall⟩ := hend
  cases rest with
  | nil => cases hsmall
  | cons l rest =>
    have hstart : wordStart? (y :: l :: rest) = some (y, l, rest) := by
      simp [wordStart?, hy, show isSmall l = true from hsmall]
    rw [acronym?, if_pos hx, hstart] at h
    split at h <;> cases h

/-- In what is taken in with an acronym there is one boundary, at the end of the acronym, and what
comes after begins anew. -/
theorem markWhere_acronymEnds_append {row : List Char} {u l : Char} (after : List Char)
    (hne : row ≠ []) (hrow : ∀ c ∈ row, isCapital c = true) (hu : isCapital u = true)
    (hl : isSmall l = true) :
  markWhere acronymEnds (row ++ u :: l :: after) =
    row ++ '_' :: u :: l :: markWhere acronymEnds after
  := by
  induction row with
  | nil => contradiction
  | cons a row ih =>
    obtain ⟨ha, hrow⟩ := List.forall_mem_cons.1 hrow
    cases row with
    | nil =>
      have hend : acronymEnds a u (l :: after) = true := by
        simp [acronymEnds, startsSmall, ha, hu, hl]
      have hl' := isCapital_of_isSmall hl
      rw [List.singleton_append, markWhere_cons_of_rule hend, markWhere_cons_of_not,
        markWhere_cons_of_not, List.singleton_append]
      · intro y rest _
        simp [acronymEnds, hl']
      · rintro _ _ ⟨⟩
        simp [acronymEnds, hl']
    | cons b row =>
      rw [List.cons_append, markWhere_cons_of_not, ih (List.cons_ne_nil b row) hrow]
      · rfl
      · rintro _ _ ⟨⟩
        -- what follows the two capitals is a capital again
        have hnext : startsSmall (row ++ u :: l :: after) = false := by
          cases row with
          | nil => apply isSmall_of_isCapital hu
          | cons c row => apply isSmall_of_isCapital (hrow c (by simp))
        simp [acronymEnds, hnext]

/-- The pass that marks acronyms sees the ends of all of them. -/
theorem markAcronyms_eq (cs : List Char) :
  markAcronyms cs = markWhere acronymEnds cs
  := by
  fun_induction markAcronyms cs with
  | case1 cs row u l after h ih =>
    obtain ⟨rfl, hne, hrow, hu, hl⟩ := eq_of_acronym? h
    rw [ih, markWhere_acronymEnds_append after hne hrow hu hl]
  | case2 h => rfl
  | case3 c rest h ih =>
    rw [ih, markWhere_cons_of_not]
    rintro y more rfl
    apply acronymEnds_of_acronym?_eq_none h

/-! ### Both passes -/

theorem exists_markWhere_cons (rule : Char → Char → List Char → Bool) (x : Char)
    (cs : List Char) :
  ∃ rest, markWhere rule (x :: cs) = x :: rest
  := by
  cases cs with
  | nil => exact ⟨[], rfl⟩
  | cons y rest =>
    rw [markWhere]
    split <;> exact ⟨_, rfl⟩

/-- The two passes come to one, over the text as it was. -/
theorem markWords_markAcronyms (cs : List Char) :
  markWords (markAcronyms cs) = markWhere boundary cs
  := by
  rw [markWords_eq, markAcronyms_eq]
  induction cs with
  | nil => rfl
  | cons x cs ih =>
    cases cs with
    | nil => rfl
    | cons y rest =>
      obtain ⟨marked, hmarked⟩ := exists_markWhere_cons acronymEnds y rest
      have hmark : ∀ z more, wordEnds '_' z more = false := by
        intro z more
        have hend : endsWord '_' = false := by decide
        exact congrArg (· && isCapital z) hend
      cases hend : acronymEnds x y rest with
      | true =>
        have hboundary : boundary x y rest = true := by simp [boundary, hend]
        rw [markWhere_cons_of_rule hend, markWhere_cons_of_rule hboundary, ← ih,
          markWhere_cons_of_not, markWhere_cons_of_not]
        · intro z more _
          apply hmark
        · rintro _ _ ⟨⟩
          apply Bool.and_false
      | false =>
        have hboundary : boundary x y rest = wordEnds x y rest := by simp [boundary, hend]
        rw [markWhere_cons_of_not (by rintro _ _ ⟨⟩; exact hend)]
        rw [hmarked] at ih ⊢
        rw [markWhere, markWhere, hboundary, ih]
        rfl

/-! ### Rows of separators -/

/-- Both characters are separators, or none of them is. -/
def sameKind (a b : Char) : Bool :=
  isSeparator a == isSeparator b

/-- The longest rows of separators, and of other characters, in a text. -/
def rows (cs : List Char) : List (List Char) :=
  cs.splitBy sameKind

/-- A row of separators becomes one separator, and any other row stays. -/
def joinRow (separator : Char) (row : List Char) : List Char :=
  if row.all isSeparator then [separator] else row

theorem joinSeparators_append_of_separators (separator : Char) {row : List Char}
    (hrow : ∀ c ∈ row, isSeparator c = true) (rest : List Char) :
  joinSeparators separator true (row ++ rest) = joinSeparators separator true rest
  := by
  induction row with
  | nil => rfl
  | cons c row ih =>
    obtain ⟨hc, hrow⟩ := List.forall_mem_cons.1 hrow
    simp [joinSeparators, hc, ih hrow]

theorem joinSeparators_append_of_others (separator : Char) {row : List Char}
    (hrow : ∀ c ∈ row, isSeparator c = false) (rest : List Char) :
  joinSeparators separator false (row ++ rest) = row ++ joinSeparators separator false rest
  := by
  induction row with
  | nil => rfl
  | cons c row ih =>
    obtain ⟨hc, hrow⟩ := List.forall_mem_cons.1 hrow
    simp [joinSeparators, hc, ih hrow]

/-- A row that has had its separator ends before any other character. -/
theorem joinSeparators_true (separator : Char) {cs : List Char}
    (h : ∀ c ∈ cs.head?, isSeparator c = false) :
  joinSeparators separator true cs = joinSeparators separator false cs
  := by
  cases cs with
  | nil => rfl
  | cons c rest => simp [joinSeparators, h c rfl]

/-- The characters of a row are all separators, or none of them is. -/
theorem uniform_of_isChain {row : List Char}
    (h : row.IsChain fun a b => sameKind a b = true) :
  ∃ kind, ∀ c ∈ row, isSeparator c = kind
  := by
  induction row with
  | nil => exact ⟨true, by simp⟩
  | cons c row ih =>
    cases row with
    | nil => exact ⟨isSeparator c, by simp⟩
    | cons d row =>
      obtain ⟨hcd, hrow⟩ := List.isChain_cons_cons.1 h
      obtain ⟨kind, hkind⟩ := ih hrow
      refine ⟨kind, List.forall_mem_cons.2 ⟨?_, hkind⟩⟩
      rw [← hkind d List.mem_cons_self]
      apply eq_of_beq hcd

/-- Rows that take turns are joined one by one. -/
theorem joinSeparators_flatten (separator : Char) {l : List (List Char)} (hne : [] ∉ l)
    (hrows : ∀ row ∈ l, row.IsChain fun a b => sameKind a b = true)
    (hturns : l.IsChain fun a b => ∃ ha hb, sameKind (a.getLast ha) (b.head hb) = false) :
  joinSeparators separator false l.flatten = l.flatMap (joinRow separator)
  := by
  induction l with
  | nil => rfl
  | cons row l ih =>
    obtain ⟨hrow, hrows⟩ := List.forall_mem_cons.1 hrows
    obtain ⟨kind, hkind⟩ := uniform_of_isChain hrow
    have hrest := ih (fun h => hne (List.mem_cons_of_mem row h)) hrows hturns.tail
    have hnext : ∀ d ∈ l.flatten.head?, isSeparator d = !kind := by
      intro d hd
      cases l with
      | nil => cases hd
      | cons next l =>
        obtain ⟨⟨hlast, hfirst, hturn⟩, -⟩ := List.isChain_cons_cons.1 hturns
        rw [sameKind, hkind _ (List.getLast_mem hlast)] at hturn
        cases next with
        | nil => contradiction
        | cons e next =>
          obtain rfl : e = d := Option.some.inj hd
          revert hturn
          cases kind <;> simp
    cases row with
    | nil => cases hne List.mem_cons_self
    | cons c row =>
      obtain ⟨hc, hrow⟩ := List.forall_mem_cons.1 hkind
      rw [List.flatten_cons, List.flatMap_cons]
      cases kind with
      | true =>
        have hall : (c :: row).all isSeparator = true := List.all_eq_true.2 hkind
        rw [joinRow, if_pos hall, ← hrest, ← joinSeparators_true separator hnext,
          ← joinSeparators_append_of_separators separator hrow]
        simp [joinSeparators, hc]
      | false =>
        have hnone : ¬ (c :: row).all isSeparator = true := by simp [hc]
        rw [joinRow, if_neg hnone, joinSeparators_append_of_others separator hkind, hrest]

/-- Each row of separators becomes one. -/
theorem joinSeparators_eq (separator : Char) (cs : List Char) :
  joinSeparators separator false cs = (rows cs).flatMap (joinRow separator)
  := by
  have hcs : (rows cs).flatten = cs := List.flatten_splitBy _ cs
  have hjoin := joinSeparators_flatten separator (List.nil_notMem_splitBy sameKind cs)
    (fun row => List.isChain_of_mem_splitBy) (List.isChain_getLast_head_splitBy sameKind cs)
  rw [rows, ← hjoin, ← rows, hcs]

/-- The text of a style comes from the text in one pass over adjacent characters, whose marks are
separators like those that were there: then each of the longest rows of separators becomes the
separator of the style, and the result is put in lower case.  A mark stands between two characters
just when the first is a small letter of `a` to `z` or a digit and the second a capital of `A` to
`Z`, or both are such capitals and a small letter follows them. -/
theorem styles_local (s : String) :
  kebabCase s =
      String.ofList
        (Text.lowerChars ((rows (markWhere boundary s.toList)).flatMap (joinRow '-'))) ∧
    snakeCase s =
      String.ofList
        (Text.lowerChars ((rows (markWhere boundary s.toList)).flatMap (joinRow '_')))
  := by
  have hdelimited : ∀ separator, delimited separator s =
      String.ofList
        (Text.lowerChars ((rows (markWhere boundary s.toList)).flatMap (joinRow separator))) := by
    intro separator
    rw [delimited, markWords_markAcronyms, joinSeparators_eq]
  exact ⟨hdelimited '-', hdelimited '_'⟩

end WireSchemas.Naming
