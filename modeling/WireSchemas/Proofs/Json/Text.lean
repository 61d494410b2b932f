import Mathlib.Tactic.Use
import WireSchemas.Json.Reader
import WireSchemas.Json.Writer
import WireSchemas.Proofs.Text.Utf8

/-!
# Strings, written and read

`Spells` says which bytes the reader makes of the rest of a string.  A written character spells its
own bytes, escaped or not, so the reader finds in a written string the text that was written:
`pieces?_escaped`.
-/

namespace WireSchemas.Json

open Text.Utf8

/-- The input is the rest of a string that stands for some bytes, its closing mark, and what
follows. -/
def Spells (input bytes after : Bytes) : Prop :=
  ∃ ps, pieces? input = some (ps, after) ∧ pieceBytes? ps = some bytes

namespace Spells

variable {input bytes after : Bytes}

theorem closing (after : Bytes) :
  Spells (0x22 :: after) [] after
  := by
  use []
  constructor
  · rw [pieces?.eq_def]
    split <;> simp_all
  · rfl

theorem plain (h : Spells input bytes after) {b : UInt8} (hmark : b ≠ 0x22) (hslash : b ≠ 0x5C)
    (hle : 0x20 ≤ b) :
  Spells (b :: input) (b :: bytes) after
  := by
  obtain ⟨ps, hps, hbytes⟩ := h
  have hlt : ¬ b < 0x20 := UInt8.not_lt.2 hle
  use .byte b :: ps
  constructor
  · rw [pieces?.eq_def]
    split <;> simp_all
  · simp [pieceBytes?, hbytes]

theorem append_plain (h : Spells input bytes after) {bs : Bytes}
    (hbs : ∀ b ∈ bs, b ≠ 0x22 ∧ b ≠ 0x5C ∧ 0x20 ≤ b) :
  Spells (bs ++ input) (bs ++ bytes) after
  := by
  induction bs with
  | nil => apply h
  | cons b bs ih =>
    obtain ⟨⟨hmark, hslash, hle⟩, hbs⟩ := List.forall_mem_cons.1 hbs
    apply (ih hbs).plain hmark hslash hle

theorem escaped (h : Spells input bytes after) {e b : UInt8} (he : e ≠ 0x75)
    (hb : escaped? e = some b) :
  Spells (0x5C :: e :: input) (b :: bytes) after
  := by
  obtain ⟨ps, hps, hbytes⟩ := h
  use .byte b :: ps
  constructor
  · simp [pieces?, he, hb, hps]
  · simp [pieceBytes?, hbytes]

theorem unit (h : Spells input bytes after) {a b c d : UInt8} {u : Nat}
    (hu : unit? a b c d = some u) (hhigh : isHighSurrogate u = false)
    (hlow : isLowSurrogate u = false) :
  Spells (0x5C :: 0x75 :: a :: b :: c :: d :: input)
    (String.utf8EncodeChar (Char.ofNat u) ++ bytes) after
  := by
  obtain ⟨ps, hps, hbytes⟩ := h
  use .unit u :: ps
  constructor
  · simp [pieces?, hu, hps]
  · rw [pieceBytes?.eq_def]
    split <;> simp_all

end Spells

/-! ### Written strings -/

theorem unit?_digits :
  ∀ n < 0x20, unit? 0x30 0x30 (UInt8.ofNat (Text.Hex.digit (n / 16)).toNat)
    (UInt8.ofNat (Text.Hex.digit (n % 16)).toNat) = some n
  := by
  decide

/-- The hexadecimal digits are ASCII. -/
theorem toNat_digit_lt :
  ∀ n < 16, (Text.Hex.digit n).toNat < 0x80
  := by
  decide

/-- The bytes of a character that needs no escape need none either. -/
theorem plain_of_mem_utf8EncodeChar {c : Char} (hmark : c ≠ '"') (hslash : c ≠ '\\')
    (hle : 0x20 ≤ c.toNat) {b : UInt8} (hb : b ∈ String.utf8EncodeChar c) :
  b ≠ 0x22 ∧ b ≠ 0x5C ∧ 0x20 ≤ b
  := by
  by_cases hascii : c.toNat < 0x80
  · rw [utf8EncodeChar_of_lt hascii, List.mem_singleton] at hb
    have hbyte : b.toNat = c.toNat := by
      rw [hb, UInt8.toNat_ofNat_of_lt' (Nat.lt_trans hascii (by decide))]
    refine ⟨?_, ?_, ?_⟩
    · rintro rfl
      apply hmark (Char.toNat_inj.1 hbyte.symm)
    · rintro rfl
      apply hslash (Char.toNat_inj.1 hbyte.symm)
    · rw [UInt8.le_iff_toNat_le, hbyte]
      apply hle
  · have hhigh := UInt8.le_iff_toNat_le.1 (le_of_mem_utf8EncodeChar (by omega) hb)
    refine ⟨?_, ?_, ?_⟩
    · rintro rfl
      contradiction
    · rintro rfl
      contradiction
    · apply UInt8.le_iff_toNat_le.2 (Nat.le_trans _ hhigh)
      decide

/-- A written character spells its bytes. -/
theorem spells_escape {input bytes after : Bytes} (h : Spells input bytes after) (c : Char) :
  Spells (encodeChars (escape c) ++ input) (String.utf8EncodeChar c ++ bytes) after
  := by
  by_cases hshort : c = '"' ∨ c = '\\' ∨ c = '\n' ∨ c = '\r' ∨ c = '\t' ∨ c = '\x08' ∨ c = '\x0c'
  · rcases hshort with rfl | rfl | rfl | rfl | rfl | rfl | rfl <;> apply h.escaped <;> decide
  · simp only [not_or] at hshort
    obtain ⟨hmark, hslash, hline, hreturn, htab, hback, hfeed⟩ := hshort
    simp only [escape, hmark, hslash, hline, hreturn, htab, hback, hfeed, if_false]
    split
    · next hlow =>
      have hhigh := utf8EncodeChar_of_lt (toNat_digit_lt (c.toNat / 16) (by omega))
      have hrest := utf8EncodeChar_of_lt (toNat_digit_lt (c.toNat % 16) (by omega))
      have hunit := h.unit (unit?_digits c.toNat hlow) (by simp [isHighSurrogate]; omega)
        (by simp [isLowSurrogate]; omega)
      rw [Char.ofNat_toNat] at hunit
      simp only [encodeChars_cons, hhigh, hrest]
      apply hunit
    · next hlow =>
      rw [encodeChars_cons, encodeChars_nil, List.append_nil]
      apply h.append_plain
      intro b hb
      apply plain_of_mem_utf8EncodeChar hmark hslash (Nat.not_lt.1 hlow) hb

/-- A written string spells the bytes of its characters. -/
theorem spells_escaped (cs : List Char) (after : Bytes) :
  Spells (encodeChars (cs.flatMap escape) ++ 0x22 :: after) (encodeChars cs) after
  := by
  induction cs with
  | nil => apply Spells.closing
  | cons c cs ih =>
    rw [List.flatMap_cons, encodeChars_append, encodeChars_cons, List.append_assoc]
    apply spells_escape ih

/-- The reader finds the text of a written string. -/
theorem pieces?_escaped (s : String) (after : Bytes) :
  ∃ ps, pieces? (encodeChars (s.toList.flatMap escape) ++ 0x22 :: after) = some (ps, after) ∧
    pieceText? ps = some s
  := by
  obtain ⟨ps, hps, hbytes⟩ := spells_escaped s.toList after
  use ps, hps
  rw [pieceText?, hbytes, Option.bind_some, ← encode_eq_encodeChars, decode?_encode]

end WireSchemas.Json
