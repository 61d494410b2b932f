import WireSchemas.DataFormat.Reader

/-!
# The texts of data formats

A data format is read from its name, in letters of either case, or from the digit of its number,
with any blanks around it, and from no other text: `parse_eq_ok_iff`.
-/

namespace WireSchemas

/-! ### Trimmed texts -/

namespace Text

/-- Nothing is trimmed but the blanks on either side. -/
theorem trimChars_surrounded {before core after : List Char}
    (hbefore : ∀ c ∈ before, isBlank c = true) (hcore : ∀ c ∈ core, isBlank c = false)
    (hafter : ∀ c ∈ after, isBlank c = true) :
  trimChars (before ++ core ++ after) = core
  := by
  rw [trimChars, List.append_assoc, List.dropWhile_append_of_pos hbefore]
  cases core with
  | nil =>
    rw [List.nil_append, dropWhile_isBlank_eq_nil_iff.2 hafter]
    rfl
  | cons c core =>
    -- what is dropped ends at the first character of the core, and likewise from behind
    have hfirst : isBlank c = false := hcore c List.mem_cons_self
    rw [List.cons_append, List.dropWhile_cons_of_neg (by simp [hfirst]), ← List.cons_append,
      List.reverse_append, List.dropWhile_append_of_pos (by simpa using hafter)]
    obtain ⟨d, rest, hrev⟩ := List.exists_cons_of_ne_nil (List.reverse_ne_nil_iff.2
      (List.cons_ne_nil c core))
    have hlast : isBlank d = false := by
      apply hcore
      rw [← List.mem_reverse, hrev]
      apply List.mem_cons_self
    rw [hrev, List.dropWhile_cons_of_neg (by simp [hlast]), ← hrev, List.reverse_reverse]

/-- A text is its trimmed form with blanks on either side. -/
theorem exists_surrounded (cs : List Char) :
  ∃ before after, cs = before ++ trimChars cs ++ after ∧
    (∀ c ∈ before, isBlank c = true) ∧ ∀ c ∈ after, isBlank c = true
  := by
  refine ⟨cs.takeWhile isBlank, ((cs.dropWhile isBlank).reverse.takeWhile isBlank).reverse, ?_,
    ?_, ?_⟩
  · rw [trimChars, List.append_assoc, ← List.reverse_append, List.takeWhile_append_dropWhile,
      List.reverse_reverse, List.takeWhile_append_dropWhile]
  · apply List.all_eq_true.1 List.all_takeWhile
  · intro c hc
    apply List.all_eq_true.1 List.all_takeWhile c (List.mem_reverse.1 hc)

/-- Blanks have no case. -/
theorem toLower_of_isBlank {c : Char} (h : isBlank c = true) :
  c.toLower = c
  := by
  apply dif_neg
  rintro ⟨hfirst, hlast⟩
  have hfirst : 65 ≤ c.toNat := UInt32.le_iff_toNat_le.1 hfirst
  have hlast : c.toNat ≤ 90 := UInt32.le_iff_toNat_le.1 hlast
  simp only [isBlank, Bool.or_eq_true, Bool.and_eq_true, decide_eq_true_eq, beq_iff_eq] at h
  omega

end Text

namespace DataFormat

theorem ofName?_name (f : DataFormat) :
  ofName? f.name = some f
  := by
  cases f <;> rfl

theorem name_inj {f f' : DataFormat} :
  f.name = f'.name ↔ f = f'
  := by
  constructor
  · intro h
    apply Option.some.inj
    rw [← ofName?_name f, h, ofName?_name f']
  · rintro rfl
    rfl

/-- A text denotes a format by its name, in letters of either case, or by the digit of its number,
with any blanks around it. -/
def DenotedBy (f : DataFormat) (s : String) : Prop :=
  ∃ before core after, s.toList = before ++ core ++ after ∧
    (∀ c ∈ before, Text.isBlank c = true) ∧ (∀ c ∈ after, Text.isBlank c = true) ∧
    core.map Char.toLower ∈ [f.name.toList, (toString f.number).toList]

theorem ofNameOrNumber?_eq_some_iff {s : String} {f : DataFormat} :
  ofNameOrNumber? s = some f ↔ s = f.name ∨ s = toString f.number
  := by
  constructor
  · intro h
    simpa using List.find?_some h
  · rintro (rfl | rfl) <;> cases f <;> rfl

theorem parse_eq_ok {s : String} {f : DataFormat} :
  parse s = .ok f ↔ ofNameOrNumber? (Text.lowerAscii (Text.trim s)) = some f
  := by
  simp only [parse]
  split
  · next h => simp [h]
  · next h => simp [h]

/-- The names and numbers of formats have no blanks. -/
theorem isBlank_of_denotes {f : DataFormat} {core : List Char}
    (h : core.map Char.toLower ∈ [f.name.toList, (toString f.number).toList]) :
  ∀ c ∈ core, Text.isBlank c = false
  := by
  have hvisible : ∀ cs ∈ [f.name.toList, (toString f.number).toList],
      (cs.all fun c => !Text.isBlank c) = true := by
    cases f <;> decide
  intro c hc
  rw [Bool.eq_false_iff]
  intro hblank
  have hlower := List.all_eq_true.1 (hvisible _ h) _ (List.mem_map_of_mem hc)
  rw [Text.toLower_of_isBlank hblank, hblank] at hlower
  cases hlower

/-- A format is read from the texts that denote it, and from no others. -/
theorem parse_eq_ok_iff {s : String} {f : DataFormat} :
  parse s = .ok f ↔ f.DenotedBy s
  := by
  rw [parse_eq_ok, ofNameOrNumber?_eq_some_iff]
  simp only [← String.toList_inj, Text.lowerAscii, Text.trim, String.toList_map,
    String.toList_ofList]
  constructor
  · intro h
    obtain ⟨before, after, hs, hbefore, hafter⟩ := Text.exists_surrounded s.toList
    exact ⟨before, _, after, hs, hbefore, hafter, by simpa using h⟩
  · rintro ⟨before, core, after, hs, hbefore, hafter, hcore⟩
    rw [hs, Text.trimChars_surrounded hbefore (isBlank_of_denotes hcore) hafter]
    simpa using hcore

instance (f : DataFormat) (s : String) : Decidable (f.DenotedBy s) :=
  decidable_of_iff _ (parse_eq_ok.symm.trans parse_eq_ok_iff)

end DataFormat

end WireSchemas
