import WireSchemas.Proofs.Toml.Value
import WireSchemas.Toml.Document

/-!
# Documents of TOML read back

A document of blank lines, headers and pairs with written values is read line by line, and gives
the statements on its lines: `read?_lines`.
-/

namespace WireSchemas.Toml

/-- A key that needs no quotation marks. -/
def Bare (key : String) : Prop :=
  key.toList ≠ [] ∧ key.toList.all isBareChar = true

instance (key : String) : Decidable (Bare key) :=
  inferInstanceAs (Decidable (_ ∧ _))

/-- A line of a document, with the statements on it. -/
inductive Line : List Char → List Statement → Prop where
  | blank : Line ['\n'] []
  | header {key : String} (hkey : Bare key) : Line (headerLine key) [.header ⟨[], key⟩]
  | pair {key : String} {w : List Char} {d : Datum} (hkey : Bare key)
    (hw : Written nestingLimit w d) : Line (pairLine key w) [.pair ⟨[], key⟩ d]

/-! ### Keys -/

theorem Bare.chars {key : String} (h : Bare key) :
  ∀ c ∈ key.toList, isBareChar c = true
  := List.all_eq_true.1 h.2

theorem Bare.exists_head {key : String} (h : Bare key) :
  ∃ c cs, key.toList = c :: cs ∧ isBareChar c = true
  := by
  obtain ⟨c, cs, hkey⟩ := List.exists_cons_of_ne_nil h.1
  exact ⟨c, cs, hkey, h.chars c (hkey ▸ List.mem_cons_self)⟩

theorem ne_of_isBareChar {c d : Char} (h : isBareChar c = true) (hd : isBareChar d = false) :
  c ≠ d
  := by
  rintro rfl
  exact Bool.false_ne_true (hd.symm.trans h)

theorem isGap_of_isBareChar {c : Char} (h : isBareChar c = true) :
  isGap c = false
  := by
  simp [isGap, ne_of_isBareChar h (d := ' ') rfl, ne_of_isBareChar h (d := '\t') rfl]

/-- A bare key is read up to the first other character. -/
theorem key?_bare {key : String} (h : Bare key) {c : Char} (hc : isBareChar c = false)
    (rest : List Char) :
  key? (key.toList ++ c :: rest) = some (key, c :: rest)
  := by
  obtain ⟨d, ds, hkey, hd⟩ := h.exists_head
  have hline : lineString? (key.toList ++ c :: rest) = none := by
    have hquote : d ≠ '"' := ne_of_isBareChar hd rfl
    have hapostrophe : d ≠ '\'' := ne_of_isBareChar hd rfl
    simp [hkey, lineString?, hquote, hapostrophe]
  have htake : (key.toList ++ c :: rest).takeWhile isBareChar = key.toList := by
    rw [List.takeWhile_append_of_pos h.chars]
    simp [hc]
  have hdrop : (key.toList ++ c :: rest).dropWhile isBareChar = c :: rest := by
    rw [List.dropWhile_append_of_pos h.chars]
    simp [hc]
  simp only [key?, hline, htake, hdrop]
  split
  · next hnil => exact absurd hnil h.1
  · rw [String.ofList_toList]

/-- A bare key on its own is a path. -/
theorem keyPath?_bare {key : String} (h : Bare key) {c d : Char} (hc : isBareChar c = false)
    (hd : d ≠ '.') {rest after : List Char} (hskip : skipGap (c :: rest) = d :: after)
    (limit : Nat) :
  keyPath? (limit + 1) (key.toList ++ c :: rest) = some (⟨[], key⟩, d :: after)
  := by
  have hstart : skipGap (key.toList ++ c :: rest) = key.toList ++ c :: rest := by
    obtain ⟨d, ds, hkey, hd⟩ := h.exists_head
    simp [hkey, skipGap, isGap_of_isBareChar hd]
  rw [keyPath?, hstart, key?_bare h hc]
  simp [hskip, hd]

/-! ### Statements -/

theorem statement?_pairLine {key : String} (hkey : Bare key) {w : List Char} {d : Datum}
    (hw : Written nestingLimit w d) (rest : List Char) :
  statement? (pairLine key w ++ rest) = some (.pair ⟨[], key⟩ d, '\n' :: rest)
  := by
  have htext : pairLine key w ++ rest = key.toList ++ ' ' :: '=' :: ' ' :: (w ++ '\n' :: rest) := by
    simp [pairLine]
  have hpath : keyPath? nestingLimit (pairLine key w ++ rest) =
      some (⟨[], key⟩, '=' :: ' ' :: (w ++ '\n' :: rest)) := by
    rw [htext]
    exact keyPath?_bare hkey rfl (by decide) rfl 78
  have hgap : skipGap (' ' :: (w ++ '\n' :: rest)) = w ++ '\n' :: rest := by
    obtain ⟨c, cs, rfl, hc, -⟩ := hw.begins
    show List.dropWhile isGap (c :: (cs ++ '\n' :: rest)) = _
    rw [List.dropWhile_cons, hc]
    rfl
  have hread := hw.read ('\n' :: rest) (.inl rfl)
  have hpair : pair? (value? nestingLimit) (pairLine key w ++ rest) =
      some ((⟨[], key⟩, d), '\n' :: rest) := by
    simp only [pair?, hpath, Option.bind_eq_bind, Option.bind_some, hgap, hread]
    rfl
  have hstart : statement? (pairLine key w ++ rest) =
      (pair? (value? nestingLimit) (pairLine key w ++ rest)).map fun r =>
        (.pair r.1.1 r.1.2, r.2) := by
    obtain ⟨c, cs, hcs, hc⟩ := hkey.exists_head
    have hbracket : c ≠ '[' := ne_of_isBareChar hc rfl
    rw [htext, hcs, List.cons_append, statement?]
    · cases pair? (value? nestingLimit) _ <;> rfl
    · simp [hbracket]
    · simp [hbracket]
  rw [hstart, hpair]
  rfl

theorem statement?_headerLine {key : String} (hkey : Bare key) (rest : List Char) :
  statement? (headerLine key ++ rest) = some (.header ⟨[], key⟩, '\n' :: rest)
  := by
  have htext : headerLine key ++ rest = '[' :: (key.toList ++ ']' :: '\n' :: rest) := by
    simp [headerLine]
  have hpath : keyPath? nestingLimit (key.toList ++ ']' :: '\n' :: rest) =
      some (⟨[], key⟩, ']' :: '\n' :: rest) :=
    keyPath?_bare hkey rfl (by decide) rfl 78
  obtain ⟨c, cs, hcs, hc⟩ := hkey.exists_head
  have hbracket : c ≠ '[' := ne_of_isBareChar hc rfl
  rw [hcs, List.cons_append] at hpath
  rw [htext, hcs]
  simp [statement?, hbracket, hpath]

/-! ### Lines -/

theorem endLine?_newline (rest : List Char) :
  endLine? ('\n' :: rest) = some rest
  := rfl

theorem endLine?_eq_none {c : Char} (hc : isBareChar c = true ∨ c = '[') (cs : List Char) :
  endLine? (c :: cs) = none
  := by
  rcases hc with hc | rfl
  · have hgap := isGap_of_isBareChar hc
    have hmark : c ≠ '#' := ne_of_isBareChar hc rfl
    have hfeed : c ≠ '\n' := ne_of_isBareChar hc rfl
    have hreturn : c ≠ '\r' := ne_of_isBareChar hc rfl
    simp [endLine?, skipGap, hgap, skipComment, hmark, newline?, hfeed, hreturn]
  · rfl

theorem Line.exists_head {line : List Char} {statements : List Statement}
    (h : Line line statements) :
  ∃ c cs, line = c :: cs ∧ (isBareChar c = true ∨ c = '[' ∨ c = '\n')
  := by
  cases h with
  | blank => exact ⟨_, _, rfl, .inr (.inr rfl)⟩
  | header hkey => exact ⟨_, _, rfl, .inr (.inl rfl)⟩
  | pair hkey hw =>
    obtain ⟨c, cs, hcs, hc⟩ := hkey.exists_head
    rw [pairLine, hcs]
    exact ⟨_, _, rfl, .inl hc⟩

/-- A statement that ends its line is followed by the statements on the lines below. -/
theorem statements?_cons {c : Char} {cs rest : List Char} {s : Statement}
    (hc : isBareChar c = true ∨ c = '[') (h : statement? (c :: cs) = some (s, '\n' :: rest))
    (fuel : Nat) :
  statements? (fuel + 1) (c :: cs) = (statements? fuel rest).map (s :: ·)
  := by
  have hgap : skipGap (c :: cs) = c :: cs := by
    rcases hc with hc | rfl
    · rw [skipGap, List.dropWhile_cons, isGap_of_isBareChar hc]
      rfl
    · rfl
  simp only [statements?, endLine?_eq_none hc, hgap, h, endLine?_newline, Option.bind_eq_bind,
    Option.bind_some]
  cases statements? fuel rest <;> rfl

theorem statements?_line {line : List Char} {statements : List Statement}
    (h : Line line statements) (fuel : Nat) (rest : List Char) :
  statements? (fuel + 1) (line ++ rest) = (statements? fuel rest).map (statements ++ ·)
  := by
  cases h with
  | blank =>
    simp only [List.singleton_append, statements?, endLine?_newline]
    cases statements? fuel rest <;> rfl
  | header hkey =>
    have hstatement := statement?_headerLine hkey rest
    exact statements?_cons (.inr rfl) hstatement fuel
  | pair hkey hw =>
    have hstatement := statement?_pairLine hkey hw rest
    obtain ⟨c, cs, hcs, hc⟩ := hkey.exists_head
    rw [pairLine, hcs] at hstatement ⊢
    exact statements?_cons (.inl hc) hstatement fuel

theorem statements?_lines {fuel : Nat} {ls : List (List Char × List Statement)}
    (h : ∀ l ∈ ls, Line l.1 l.2) (hfuel : ls.length ≤ fuel) :
  statements? fuel (ls.flatMap Prod.fst) = some (ls.flatMap Prod.snd)
  := by
  induction ls generalizing fuel with
  | nil => cases fuel <;> rfl
  | cons l ls ih =>
    obtain ⟨hl, hls⟩ := List.forall_mem_cons.1 h
    obtain ⟨fuel, rfl⟩ := Nat.exists_eq_succ_of_ne_zero (Nat.ne_of_gt (Nat.zero_lt_of_lt hfuel))
    rw [List.flatMap_cons, statements?_line hl, ih hls (Nat.le_of_succ_le_succ hfuel)]
    rfl

theorem length_le_lines {ls : List (List Char × List Statement)} (h : ∀ l ∈ ls, Line l.1 l.2) :
  ls.length ≤ (ls.flatMap Prod.fst).length
  := by
  induction ls with
  | nil => exact Nat.le_refl 0
  | cons l ls ih =>
    obtain ⟨hl, hls⟩ := List.forall_mem_cons.1 h
    have hle := ih hls
    obtain ⟨c, cs, hcs, -⟩ := hl.exists_head
    rw [List.flatMap_cons, hcs, List.length_append, List.length_cons, List.length_cons]
    omega

/-- A document of lines is read line by line. -/
theorem read?_lines {ls : List (List Char × List Statement)} (h : ∀ l ∈ ls, Line l.1 l.2) :
  read? (String.ofList (ls.flatMap Prod.fst)) =
    ((ls.flatMap Prod.snd).foldlM Document.run? {}).map fun doc => entryData doc.root
  := by
  have hread : statements? ((ls.flatMap Prod.fst).length + 1) (ls.flatMap Prod.fst) =
      some (ls.flatMap Prod.snd) :=
    statements?_lines h (Nat.le_succ_of_le (length_le_lines h))
  have hmark : ∀ rest, ls.flatMap Prod.fst ≠ '\uFEFF' :: rest := by
    intro rest heq
    cases ls with
    | nil => cases heq
    | cons l ls =>
      obtain ⟨c, cs, hcs, hc⟩ := (h l List.mem_cons_self).exists_head
      rw [List.flatMap_cons, hcs] at heq
      rcases hc with hc | rfl | rfl
      · exact ne_of_isBareChar hc rfl (List.cons.inj heq).1
      · cases (List.cons.inj heq).1
      · cases (List.cons.inj heq).1
  rw [read?, String.toList_ofList]
  simp only [hread, Option.bind_eq_bind, Option.bind_some]
  cases List.foldlM Document.run? {} (ls.flatMap Prod.snd) <;> rfl

end WireSchemas.Toml
