import WireSchemas.Proofs.Json.Grammar
import WireSchemas.Proofs.Json.Text
import WireSchemas.Proofs.Text.Lossy

/-!
# Strings as the grammar spells them

The reader finds a text in a string exactly when the grammar spells it so: `spells_iff`.  The reader
goes by bytes and the grammar by characters, so the bytes of a character that is not escaped have to
stand together, which they do because no escape stands for a continuation byte.
-/

namespace WireSchemas.Json

open Text.Utf8

/-! ### Characters and their bytes -/

theorem toNat_ofNat_of_isValidChar {n : Nat} (h : n.isValidChar) :
  (Char.ofNat n).toNat = n
  := by
  rw [Char.ofNat, dif_pos h]
  rfl

/-- The byte of an ASCII character. -/
def byteOf (c : Char) : UInt8 :=
  UInt8.ofNat c.toNat

/-- The character of a byte. -/
def charOf (b : UInt8) : Char :=
  Char.ofNat b.toNat

theorem toNat_charOf (b : UInt8) :
  (charOf b).toNat = b.toNat
  := by
  have hb : b.toNat < 256 := b.toNat_lt
  apply toNat_ofNat_of_isValidChar
  left
  omega

theorem byteOf_charOf (b : UInt8) :
  byteOf (charOf b) = b
  := by
  rw [byteOf, toNat_charOf, UInt8.ofNat_toNat]

theorem charOf_byteOf {c : Char} (h : c.toNat < 0x80) :
  charOf (byteOf c) = c
  := by
  rw [charOf, byteOf, UInt8.toNat_ofNat_of_lt' (Nat.lt_trans h (by decide)), Char.ofNat_toNat]

theorem encodeChars_cons_of_lt {c : Char} (h : c.toNat < 0x80) (cs : List Char) :
  encodeChars (c :: cs) = byteOf c :: encodeChars cs
  := by
  rw [encodeChars_cons, utf8EncodeChar_of_lt h]
  rfl

/-- A byte below 80 is that of its character. -/
theorem utf8EncodeChar_charOf {b : UInt8} (h : b < 0x80) :
  String.utf8EncodeChar (charOf b) = [b]
  := by
  rw [utf8EncodeChar_of_lt, toNat_charOf, UInt8.ofNat_toNat]
  rw [toNat_charOf]
  apply UInt8.lt_iff_toNat_lt.1 h

theorem utf8EncodeChar_append_ne_nil (c : Char) (bytes : Bytes) :
  String.utf8EncodeChar c ++ bytes ≠ []
  := by
  obtain ⟨b, tail, hc, -⟩ := exists_utf8EncodeChar_eq_cons c
  rw [hc]
  apply List.cons_ne_nil

theorem not_isContinuation_of_lt {b : UInt8} (h : b < 0x80) :
  ¬ IsContinuation b
  := fun hb => absurd (UInt8.lt_of_lt_of_le h hb.1) (UInt8.lt_irrefl b)

/-! ### Escapes -/

theorem value?_lt {c : Char} {n : Nat} (h : Text.Hex.value? c = some n) :
  c.toNat < 0x80 ∧ n < 16
  := by
  simp only [Text.Hex.value?, Char.le_def, UInt32.le_iff_toNat_le, Char.toNat_val,
    Char.reduceToNat] at h
  grind

theorem unitOf?_lt {a b c d : Char} {u : Nat} (h : unitOf? a b c d = some u) :
  (a.toNat < 0x80 ∧ b.toNat < 0x80 ∧ c.toNat < 0x80 ∧ d.toNat < 0x80) ∧ u < 0x10000
  := by
  simp only [unitOf?, bind, Option.bind_eq_some_iff, Option.pure_def, Option.some.injEq] at h
  obtain ⟨n₁, h₁, n₂, h₂, n₃, h₃, n₄, h₄, rfl⟩ := h
  have := value?_lt h₁
  have := value?_lt h₂
  have := value?_lt h₃
  have := value?_lt h₄
  omega

/-- The reader takes the unit of four bytes to be that of their characters. -/
theorem unit?_eq (a b c d : UInt8) :
  unit? a b c d = unitOf? (charOf a) (charOf b) (charOf c) (charOf d)
  := rfl

/-- A numbered escape as bytes. -/
theorem encodeChars_numbered {a b c d : Char} {u : Nat} (h : unitOf? a b c d = some u)
    (cs : List Char) :
  encodeChars ('\\' :: 'u' :: a :: b :: c :: d :: cs) =
      0x5C :: 0x75 :: byteOf a :: byteOf b :: byteOf c :: byteOf d :: encodeChars cs ∧
    unit? (byteOf a) (byteOf b) (byteOf c) (byteOf d) = some u
  := by
  obtain ⟨⟨ha, hb, hc, hd⟩, -⟩ := unitOf?_lt h
  constructor
  · rw [encodeChars_cons_of_lt (by decide), encodeChars_cons_of_lt (by decide),
      encodeChars_cons_of_lt ha, encodeChars_cons_of_lt hb, encodeChars_cons_of_lt hc,
      encodeChars_cons_of_lt hd]
    rfl
  · rw [unit?_eq, charOf_byteOf ha, charOf_byteOf hb, charOf_byteOf hc, charOf_byteOf hd, h]

/-- A one-letter escape as bytes. -/
theorem escaped?_byteOf {e c : Char} (h : escapedChar? e = some c) :
  e.toNat < 0x80 ∧ c.toNat < 0x80 ∧ e ≠ 'u' ∧ escaped? (byteOf e) = some (byteOf c)
  := by
  simp only [escapedChar?] at h
  split at h <;> first | cases h; decide | cases h

theorem escapedChar?_charOf {e b : UInt8} (h : escaped? e = some b) :
  e < 0x80 ∧ b < 0x80 ∧ escapedChar? (charOf e) = some (charOf b)
  := by
  simp only [escaped?] at h
  repeat' split at h
  all_goals first | (obtain rfl := Option.some.inj h; subst_vars; decide) | cases h

/-! ### What a string begins with -/

/-- The first part of the rest of a string, and what is left of the rest. -/
inductive Cut : Bytes → List Piece → Bytes → Prop
  | closing (after : Bytes) : Cut (0x22 :: after) [] after
  | plain {b : UInt8} {input after : Bytes} {ps : List Piece} (hmark : b ≠ 0x22)
    (hslash : b ≠ 0x5C) (hle : 0x20 ≤ b) (rest : pieces? input = some (ps, after)) :
    Cut (b :: input) (.byte b :: ps) after
  | letter {e b : UInt8} {input after : Bytes} {ps : List Piece} (he : escaped? e = some b)
    (rest : pieces? input = some (ps, after)) : Cut (0x5C :: e :: input) (.byte b :: ps) after
  | numbered {a b c d : UInt8} {u : Nat} {input after : Bytes} {ps : List Piece}
    (hu : unit? a b c d = some u) (rest : pieces? input = some (ps, after)) :
    Cut (0x5C :: 0x75 :: a :: b :: c :: d :: input) (.unit u :: ps) after

theorem cut_of_pieces? {input after : Bytes} {ps : List Piece}
    (h : pieces? input = some (ps, after)) :
  Cut input ps after
  := by
  rw [pieces?.eq_def] at h
  split at h
  · cases h
  · next a b c d rest =>
    simp only [bind, Option.bind_eq_some_iff, Option.pure_def, Option.some.injEq,
      Prod.mk.injEq] at h
    obtain ⟨u, hu, ⟨qs, after'⟩, hrest, rfl, rfl⟩ := h
    apply Cut.numbered hu hrest
  · next e rest _ =>
    simp only [bind, Option.bind_eq_some_iff, Option.pure_def, Option.some.injEq,
      Prod.mk.injEq] at h
    obtain ⟨b, he, ⟨qs, after'⟩, hrest, rfl, rfl⟩ := h
    apply Cut.letter he hrest
  · next b rest _ _ =>
    split at h
    · next hmark =>
      obtain ⟨rfl, rfl⟩ := Prod.mk.inj (Option.some.inj h)
      rw [hmark]
      apply Cut.closing
    · next hmark =>
      split at h
      · cases h
      · next hplain =>
        obtain ⟨⟨qs, after'⟩, hrest, heq⟩ := Option.map_eq_some_iff.1 h
        obtain ⟨rfl, rfl⟩ := Prod.mk.inj heq
        simp only [not_or, UInt8.not_lt] at hplain
        apply Cut.plain hmark hplain.1 hplain.2 hrest

/-- A numbered unit stands for a character, or a second one has to follow it. -/
theorem pieceBytes?_unit {u : Nat} {ps : List Piece} {bytes : Bytes}
    (h : pieceBytes? (.unit u :: ps) = some bytes) :
  (isHighSurrogate u = false ∧ isLowSurrogate u = false ∧ ∃ bytes',
    pieceBytes? ps = some bytes' ∧ bytes = String.utf8EncodeChar (Char.ofNat u) ++ bytes') ∨
  (isHighSurrogate u = true ∧ ∃ v ps', ps = .unit v :: ps' ∧ isLowSurrogate v = true ∧ ∃ bytes',
    pieceBytes? ps' = some bytes' ∧
      bytes = String.utf8EncodeChar (Char.ofNat (joined u v)) ++ bytes')
  := by
  rw [pieceBytes?.eq_def] at h
  split at h
  · next heq => cases heq
  · next heq => cases heq
  · next v rest heq =>
    obtain ⟨⟨rfl⟩, rfl⟩ := List.cons.inj heq
    split at h
    · next hhigh =>
      split at h
      · next hlow =>
        obtain ⟨bytes', hbytes', rfl⟩ := Option.map_eq_some_iff.1 h
        exact .inr ⟨hhigh, v, rest, rfl, hlow, bytes', hbytes', rfl⟩
      · cases h
    · next hhigh =>
      split at h
      · cases h
      · next hlow =>
        obtain ⟨bytes', hbytes', rfl⟩ := Option.map_eq_some_iff.1 h
        exact .inl ⟨by simpa using hhigh, by simpa using hlow, bytes', hbytes', rfl⟩
  · next heq =>
    obtain ⟨⟨rfl⟩, rfl⟩ := List.cons.inj heq
    split at h
    · cases h
    · next hsurrogate =>
      simp only [Bool.or_eq_true, not_or, Bool.not_eq_true] at hsurrogate
      obtain ⟨bytes', hbytes', rfl⟩ := Option.map_eq_some_iff.1 h
      exact .inl ⟨hsurrogate.1, hsurrogate.2, bytes', hbytes', rfl⟩

/-- How the rest of a string that stands for some bytes goes on. -/
inductive Opens : Bytes → Bytes → Bytes → Prop
  | closing (after : Bytes) : Opens (0x22 :: after) [] after
  | plain {b : UInt8} {input bytes after : Bytes} (hmark : b ≠ 0x22) (hslash : b ≠ 0x5C)
    (hle : 0x20 ≤ b) (rest : Spells input bytes after) : Opens (b :: input) (b :: bytes) after
  | letter {e b : UInt8} {input bytes after : Bytes} (he : escaped? e = some b)
    (rest : Spells input bytes after) : Opens (0x5C :: e :: input) (b :: bytes) after
  | unit {a b c d : UInt8} {u : Nat} {input bytes after : Bytes} (hu : unit? a b c d = some u)
    (hhigh : isHighSurrogate u = false) (hlow : isLowSurrogate u = false)
    (rest : Spells input bytes after) :
    Opens (0x5C :: 0x75 :: a :: b :: c :: d :: input)
      (String.utf8EncodeChar (Char.ofNat u) ++ bytes) after
  | pair {a b c d a' b' c' d' : UInt8} {u v : Nat} {input bytes after : Bytes}
    (hu : unit? a b c d = some u) (hv : unit? a' b' c' d' = some v)
    (hhigh : isHighSurrogate u = true) (hlow : isLowSurrogate v = true)
    (rest : Spells input bytes after) :
    Opens
      (0x5C :: 0x75 :: a :: b :: c :: d :: 0x5C :: 0x75 :: a' :: b' :: c' :: d' :: input)
      (String.utf8EncodeChar (Char.ofNat (joined u v)) ++ bytes) after

theorem Spells.opens {input bytes after : Bytes} (h : Spells input bytes after) :
  Opens input bytes after
  := by
  obtain ⟨ps, hps, hbytes⟩ := h
  cases cut_of_pieces? hps with
  | closing =>
    obtain rfl := Option.some.inj hbytes
    apply Opens.closing
  | plain hmark hslash hle rest =>
    obtain ⟨bytes', hbytes', rfl⟩ := Option.map_eq_some_iff.1 hbytes
    apply Opens.plain hmark hslash hle ⟨_, rest, hbytes'⟩
  | letter he rest =>
    obtain ⟨bytes', hbytes', rfl⟩ := Option.map_eq_some_iff.1 hbytes
    apply Opens.letter he ⟨_, rest, hbytes'⟩
  | numbered hu rest =>
    rcases pieceBytes?_unit hbytes with ⟨hhigh, hlow, bytes', hbytes', rfl⟩ |
      ⟨hhigh, v, ps', rfl, hlow, bytes', hbytes', heq⟩
    · apply Opens.unit hu hhigh hlow ⟨_, rest, hbytes'⟩
    · rw [heq]
      cases cut_of_pieces? rest with
      | numbered hv rest' => apply Opens.pair hu hv hhigh hlow ⟨_, rest', hbytes'⟩

/-! ### What the reader finds is spelled -/

/-- A continuation byte stands for itself, since no escape stands for one. -/
theorem Spells.continuations {input t bytes after : Bytes} (h : Spells input (t ++ bytes) after)
    (ht : ∀ b ∈ t, IsContinuation b) :
  ∃ input', input = t ++ input' ∧ Spells input' bytes after
  := by
  induction t generalizing input with
  | nil => exact ⟨input, rfl, h⟩
  | cons b t ih =>
    obtain ⟨hb, ht⟩ := List.forall_mem_cons.1 ht
    have hescaped {x : Char} {xs : Bytes}
        (heq : b :: (t ++ bytes) = String.utf8EncodeChar x ++ xs) : False := by
      obtain ⟨first, tail, hx, hfirst, -⟩ := exists_utf8EncodeChar_eq_cons x
      rw [hx] at heq
      apply hfirst
      rw [← (List.cons.inj heq).1]
      apply hb
    have hopens := h.opens
    rw [List.cons_append] at hopens
    generalize hall : b :: (t ++ bytes) = all at hopens
    cases hopens with
    | closing => cases hall
    | plain hmark hslash hle rest =>
      obtain ⟨rfl, rfl⟩ := List.cons.inj hall
      obtain ⟨input', rfl, hinput'⟩ := ih rest ht
      exact ⟨input', rfl, hinput'⟩
    | letter he rest =>
      obtain ⟨rfl, -⟩ := List.cons.inj hall
      cases not_isContinuation_of_lt (escapedChar?_charOf he).2.1 hb
    | unit hu hhigh hlow rest => cases hescaped hall
    | pair hu hv hhigh hlow rest => cases hescaped hall

/-- The characters that a byte which stands for itself can begin. -/
theorem plain_of_utf8EncodeChar_eq_cons {c : Char} {b : UInt8} {tail : Bytes}
    (h : String.utf8EncodeChar c = b :: tail) (hmark : b ≠ 0x22) (hslash : b ≠ 0x5C)
    (hle : 0x20 ≤ b) :
  c ≠ '"' ∧ c ≠ '\\' ∧ 0x20 ≤ c.toNat
  := by
  refine ⟨?_, ?_, ?_⟩
  · rintro rfl
    apply hmark (List.cons.inj h).1.symm
  · rintro rfl
    apply hslash (List.cons.inj h).1.symm
  · apply Nat.le_of_not_lt
    intro hlt
    rw [utf8EncodeChar_of_lt (by omega)] at h
    obtain ⟨rfl, -⟩ := List.cons.inj h
    rw [UInt8.le_iff_toNat_le, UInt8.toNat_ofNat_of_lt' (Nat.lt_trans hlt (by decide))] at hle
    apply Nat.not_le_of_lt hlt hle

theorem toNat_ofNat_of_not_surrogate {u : Nat} (hlt : u < 0x10000)
    (hhigh : isHighSurrogate u = false) (hlow : isLowSurrogate u = false) :
  (Char.ofNat u).toNat = u
  := by
  simp only [isHighSurrogate, isLowSurrogate, Bool.and_eq_false_iff, decide_eq_false_iff_not]
    at hhigh hlow
  apply toNat_ofNat_of_isValidChar
  rw [Nat.isValidChar]
  omega

theorem lt_joined {u v : Nat} (hhigh : 0xD800 ≤ u ∧ u < 0xDC00) (hlow : 0xDC00 ≤ v ∧ v < 0xE000) :
  0xDFFF < joined u v ∧ joined u v < 0x110000
  := by
  unfold joined
  omega

/-- The number of the character that two surrogates stand for. -/
theorem toNat_ofNat_joined {u v : Nat} (hhigh : 0xD800 ≤ u ∧ u < 0xDC00)
    (hlow : 0xDC00 ≤ v ∧ v < 0xE000) :
  (Char.ofNat (joined u v)).toNat = joined u v
  := toNat_ofNat_of_isValidChar (.inr (lt_joined hhigh hlow))

theorem isHighSurrogate_iff {u : Nat} :
  isHighSurrogate u = true ↔ 0xD800 ≤ u ∧ u < 0xDC00
  := by
  simp [isHighSurrogate]

theorem isLowSurrogate_iff {u : Nat} :
  isLowSurrogate u = true ↔ 0xDC00 ≤ u ∧ u < 0xE000
  := by
  simp [isLowSurrogate]

theorem not_surrogate_toNat (c : Char) :
  isHighSurrogate c.toNat = false ∧ isLowSurrogate c.toNat = false
  := by
  have hc : c.toNat < 0xD800 ∨ 0xDFFF < c.toNat ∧ c.toNat < 0x110000 := c.valid
  generalize c.toNat = n at hc
  simp only [isHighSurrogate, isLowSurrogate, Bool.and_eq_false_iff, decide_eq_false_iff_not]
  omega

/-- A string that the reader takes for some characters is spelled for them. -/
theorem exists_spelling {input after : Bytes} {cs : List Char}
    (h : Spells input (encodeChars cs) after) :
  ∃ inner, Spelling inner cs ∧ input = encodeChars inner ++ 0x22 :: after
  := by
  induction cs generalizing input with
  | nil =>
    have hopens := h.opens
    generalize hall : encodeChars [] = all at hopens
    cases hopens with
    | closing => exact ⟨[], .nil, rfl⟩
    | plain hmark hslash hle rest => cases hall
    | letter he rest => cases hall
    | unit hu hhigh hlow rest => cases utf8EncodeChar_append_ne_nil _ _ hall.symm
    | pair hu hv hhigh hlow rest => cases utf8EncodeChar_append_ne_nil _ _ hall.symm
  | cons c cs ih =>
    have hopens := h.opens
    rw [encodeChars_cons] at hopens
    generalize hall : String.utf8EncodeChar c ++ encodeChars cs = all at hopens
    cases hopens with
    | closing => cases utf8EncodeChar_append_ne_nil _ _ hall
    | plain hmark hslash hle rest =>
      obtain ⟨first, tail, hc, -, htail⟩ := exists_utf8EncodeChar_eq_cons c
      rw [hc] at hall
      obtain ⟨rfl, rfl⟩ := List.cons.inj hall
      obtain ⟨hmark', hslash', hle'⟩ := plain_of_utf8EncodeChar_eq_cons hc hmark hslash hle
      obtain ⟨input', rfl, hinput'⟩ := rest.continuations htail
      obtain ⟨inner, hinner, rfl⟩ := ih hinput'
      refine ⟨c :: inner, .plain hmark' hslash' hle' hinner, ?_⟩
      rw [encodeChars_cons, hc]
      simp
    | letter he rest =>
      obtain ⟨hlt, hb, he'⟩ := escapedChar?_charOf he
      rw [← List.singleton_append, ← utf8EncodeChar_charOf hb] at hall
      obtain ⟨rfl, rfl⟩ := utf8EncodeChar_append_inj hall
      obtain ⟨inner, hinner, rfl⟩ := ih rest
      refine ⟨_, .letter he' hinner, ?_⟩
      rw [encodeChars_cons_of_lt (by decide), encodeChars_cons_of_lt, byteOf_charOf]
      · rfl
      · rw [toNat_charOf]
        apply UInt8.lt_iff_toNat_lt.1 hlt
    | unit hu hhigh hlow rest =>
      obtain ⟨rfl, rfl⟩ := utf8EncodeChar_append_inj hall
      obtain ⟨inner, hinner, rfl⟩ := ih rest
      rw [unit?_eq] at hu
      have hu' := hu
      rw [← toNat_ofNat_of_not_surrogate (unitOf?_lt hu).2 hhigh hlow] at hu'
      refine ⟨_, .unit hu' hinner, ?_⟩
      rw [(encodeChars_numbered hu inner).1]
      simp only [byteOf_charOf]
      rfl
    | pair hu hv hhigh hlow rest =>
      obtain ⟨hc, rfl⟩ := utf8EncodeChar_append_inj hall
      obtain ⟨inner, hinner, rfl⟩ := ih rest
      rw [unit?_eq] at hu hv
      rw [isHighSurrogate_iff] at hhigh
      rw [isLowSurrogate_iff] at hlow
      have hx := toNat_ofNat_joined hhigh hlow
      rw [← hc] at hx
      refine ⟨_, .pair hu hv hhigh hlow hx hinner, ?_⟩
      rw [(encodeChars_numbered hu _).1, (encodeChars_numbered hv inner).1]
      simp only [byteOf_charOf]
      rfl

/-! ### What is spelled is found by the reader -/

/-- Two numbered escapes that stand for one character. -/
theorem Spells.pair {input bytes after : Bytes} (h : Spells input bytes after)
    {a b c d a' b' c' d' : UInt8} {u v : Nat} (hu : unit? a b c d = some u)
    (hv : unit? a' b' c' d' = some v) (hhigh : isHighSurrogate u = true)
    (hlow : isLowSurrogate v = true) :
  Spells (0x5C :: 0x75 :: a :: b :: c :: d :: 0x5C :: 0x75 :: a' :: b' :: c' :: d' :: input)
    (String.utf8EncodeChar (Char.ofNat (joined u v)) ++ bytes) after
  := by
  obtain ⟨ps, hps, hbytes⟩ := h
  use .unit u :: .unit v :: ps
  constructor
  · simp [pieces?, hu, hv, hps]
  · simp only [pieceBytes?, hhigh, hlow, if_true, hbytes, Option.map_some]
    rfl

theorem byteOf_ne_of_ne {c : Char} (hlt : c.toNat < 0x80) {d : Char} (hd : d.toNat < 0x80)
    (h : c ≠ d) :
  byteOf c ≠ byteOf d
  := by
  intro heq
  apply h
  rw [← charOf_byteOf hlt, heq, charOf_byteOf hd]

/-- The reader takes a spelled string for the characters that it is spelled for. -/
theorem Spelling.spells {inner cs : List Char} (h : Spelling inner cs) (after : Bytes) :
  Spells (encodeChars inner ++ 0x22 :: after) (encodeChars cs) after
  := by
  induction h with
  | nil => apply Spells.closing
  | plain hmark hslash hle rest ih =>
    rw [encodeChars_cons, encodeChars_cons, List.append_assoc]
    apply ih.append_plain
    intro b hb
    apply plain_of_mem_utf8EncodeChar hmark hslash hle hb
  | letter he rest ih =>
    obtain ⟨hlt, hc, hne, hescaped⟩ := escaped?_byteOf he
    rw [encodeChars_cons_of_lt (by decide), encodeChars_cons_of_lt hlt, encodeChars_cons_of_lt hc]
    apply ih.escaped (byteOf_ne_of_ne hlt (by decide) hne) hescaped
  | @unit a b c d x inner cs hu rest ih =>
    obtain ⟨htext, hunit⟩ := encodeChars_numbered hu inner
    obtain ⟨hhigh, hlow⟩ := not_surrogate_toNat x
    have hspells := ih.unit hunit hhigh hlow
    rw [Char.ofNat_toNat, ← encodeChars_cons] at hspells
    rw [htext]
    apply hspells
  | @pair a b c d a' b' c' d' x u v inner cs hu hv hhigh hlow hx rest ih =>
    obtain ⟨htext, hunit⟩ := encodeChars_numbered hu ('\\' :: 'u' :: a' :: b' :: c' :: d' :: inner)
    obtain ⟨htext', hunit'⟩ := encodeChars_numbered hv inner
    have hspells := ih.pair hunit hunit' (isHighSurrogate_iff.2 hhigh) (isLowSurrogate_iff.2 hlow)
    rw [← hx, Char.ofNat_toNat, ← encodeChars_cons] at hspells
    rw [htext, htext']
    apply hspells

/-- The reader takes the rest of a string for some characters just when it is spelled for them. -/
theorem spells_iff {input after : Bytes} {cs : List Char} :
  Spells input (encodeChars cs) after ↔
    ∃ inner, Spelling inner cs ∧ input = encodeChars inner ++ 0x22 :: after
  := by
  constructor
  · apply exists_spelling
  · rintro ⟨inner, hinner, rfl⟩
    apply hinner.spells

end WireSchemas.Json
