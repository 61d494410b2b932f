import Mathlib.Data.String.Basic
import WireSchemas.Proofs.Text.Utf8

/-!
# The order of bytes

Texts are ordered by their characters, and so are their bytes: `encode_lt_encode_iff`.  The bytes
of a character hold its number in digits to the base 64, behind a mark that grows with their
count, so the first character that differs decides at the first byte that differs.
-/

namespace WireSchemas.Text.Utf8

theorem ofNat_cons_lt_iff {a b : Nat} (ha : a < 256) (hb : b < 256) (xs ys : Bytes) :
  UInt8.ofNat a :: xs < UInt8.ofNat b :: ys ↔ a < b ∨ a = b ∧ xs < ys
  := by
  rw [List.cons_lt_cons_iff, UInt8.ofNat_lt_iff_lt ha hb, ← UInt8.toNat_inj,
    UInt8.toNat_ofNat_of_lt' ha, UInt8.toNat_ofNat_of_lt' hb]

theorem toNat_lt (c : Char) :
  c.toNat < 0x110000
  := by
  rcases c.valid with h | h
  · apply Nat.lt_trans h (by decide)
  · apply h.2

/-- Numbers of four digits to the base 64 are ordered by the first digit that differs. -/
theorem digits_of_lt {m n : Nat} (h : m < n) (hn : n < 0x200000) :
  m / 262144 % 8 < n / 262144 % 8 ∨ m / 262144 % 8 = n / 262144 % 8 ∧
    (m / 4096 % 64 < n / 4096 % 64 ∨ m / 4096 % 64 = n / 4096 % 64 ∧
      (m / 64 % 64 < n / 64 % 64 ∨ m / 64 % 64 = n / 64 % 64 ∧ m % 64 < n % 64))
  := by
  rw [Nat.mod_eq_of_lt (by omega : m / 262144 < 8), Nat.mod_eq_of_lt (by omega : n / 262144 < 8)]
  omega

/-- The bytes of characters are ordered as the characters, whatever follows them. -/
theorem utf8EncodeChar_append_lt {c d : Char} (h : c < d) (xs ys : Bytes) :
  String.utf8EncodeChar c ++ xs < String.utf8EncodeChar d ++ ys
  := by
  have hlt : c.toNat < d.toNat := h
  have hd := toNat_lt d
  have hdigits := digits_of_lt hlt (by omega)
  simp only [String.utf8EncodeChar, Char.toNat_val]
  generalize c.toNat = m at *
  generalize d.toNat = n at *
  -- one case for each pair of lengths: the shorter sequence has the smaller first byte, and
  -- sequences of one length are compared digit by digit
  repeat' split
  all_goals
    simp (disch := omega) only [List.cons_append, List.nil_append, ofNat_cons_lt_iff]
    omega

theorem encodeChars_lt_encodeChars {cs ds : List Char} (h : cs < ds) :
  encodeChars cs < encodeChars ds
  := by
  induction h with
  | @nil d ds =>
    rw [encodeChars_nil, encodeChars_cons]
    cases hd : String.utf8EncodeChar d with
    | nil => cases String.utf8EncodeChar_ne_nil hd
    | cons b bs => apply List.nil_lt_cons
  | rel h =>
    rw [encodeChars_cons, encodeChars_cons]
    apply utf8EncodeChar_append_lt h
  | cons h ih =>
    rw [encodeChars_cons, encodeChars_cons]
    apply List.append_left_lt ih

theorem encode_lt_encode {s t : String} (h : s < t) :
  encode s < encode t
  := by
  rw [encode_eq_encodeChars, encode_eq_encodeChars]
  apply encodeChars_lt_encodeChars (String.lt_iff.1 h)

/-- The bytes of texts are ordered as the texts. -/
theorem encode_lt_encode_iff {s t : String} :
  encode s < encode t ↔ s < t
  := by
  constructor
  · intro h
    rcases lt_trichotomy s t with hlt | rfl | hgt
    · apply hlt
    · cases List.lt_irrefl _ h
    · cases List.lt_asymm h (encode_lt_encode hgt)
  · apply encode_lt_encode

theorem encode_le_encode_iff {s t : String} :
  encode s ≤ encode t ↔ s ≤ t
  := not_congr encode_lt_encode_iff

end WireSchemas.Text.Utf8
