import WireSchemas.Proofs.Text.Utf8

/-!
# Lossy reading of texts

Lossy reading loses nothing of the bytes of a text: `decodeLossy_encode`.  The first byte of a
character tells how many bytes follow, and the ranges of the bytes that follow hold just the
characters that exist, so none of them is replaced.
-/

namespace WireSchemas.Text.Utf8

variable {b : UInt8} {rest : Bytes}

/-! ### Single bytes -/

theorem lossyFrom_of_char {c : Char} (h : Start.ofByte b = .char c) :
  lossyFrom none (b :: rest) = c :: lossyFrom none rest
  := by
  simp [lossyFrom, h]

theorem lossyFrom_of_sequence {p : Unfinished} (h : Start.ofByte b = .sequence p) :
  lossyFrom none (b :: rest) = lossyFrom (some p) rest
  := by
  simp [lossyFrom, h]

/-- A continuation byte adds six bits to a sequence, and ends it if no other is missing. -/
theorem lossyFrom_continued {p : Unfinished} {n : Nat} (hn : n < 64) (hlow : p.low ≤ n + 128)
    (hhigh : n + 128 ≤ p.high) :
  lossyFrom (some p) (UInt8.ofNat (n + 128) :: rest) =
    if p.missing = 1 then Char.ofNat (p.bits * 64 + n) :: lossyFrom none rest
    else lossyFrom (some ⟨p.bits * 64 + n, p.missing - 1, 0x80, 0xBF⟩) rest
  := by
  have hbyte : (UInt8.ofNat (n + 128)).toNat = n + 128 :=
    UInt8.toNat_ofNat_of_lt' (by omega : n + 128 < 256)
  simp only [lossyFrom, hbyte, hlow, hhigh, and_self, if_true, Nat.add_sub_cancel]

/-! ### The first bytes of characters -/

theorem Start.ofByte_one {n : Nat} (h : n < 0x80) :
  Start.ofByte (UInt8.ofNat n) = .char (Char.ofNat n)
  := by
  rw [Start.ofByte, UInt8.toNat_ofNat_of_lt' (by omega : n < 256)]
  simp [h]

theorem Start.ofByte_two {n : Nat} (hlow : 2 ≤ n) (h : n < 32) :
  Start.ofByte (UInt8.ofNat (n + 192)) = .sequence ⟨n, 1, 0x80, 0xBF⟩
  := by
  rw [Start.ofByte, UInt8.toNat_ofNat_of_lt' (by omega : n + 192 < 256)]
  grind

theorem Start.ofByte_three {n : Nat} (h : n < 16) :
  Start.ofByte (UInt8.ofNat (n + 224)) =
    .sequence ⟨n, 2, if n = 0 then 0xA0 else 0x80, if n = 13 then 0x9F else 0xBF⟩
  := by
  rw [Start.ofByte, UInt8.toNat_ofNat_of_lt' (by omega : n + 224 < 256)]
  grind

theorem Start.ofByte_four {n : Nat} (h : n < 5) :
  Start.ofByte (UInt8.ofNat (n + 240)) =
    .sequence ⟨n, 3, if n = 0 then 0x90 else 0x80, if n = 4 then 0x8F else 0xBF⟩
  := by
  rw [Start.ofByte, UInt8.toNat_ofNat_of_lt' (by omega : n + 240 < 256)]
  grind

/-! ### Characters -/

/-- The bytes of a character are read as that character. -/
theorem lossyFrom_utf8EncodeChar (c : Char) (rest : Bytes) :
  lossyFrom none (String.utf8EncodeChar c ++ rest) = c :: lossyFrom none rest
  := by
  have hc : Char.ofNat c.toNat = c := Char.ofNat_toNat c
  have hvalid : c.toNat < 0xD800 ∨ 0xDFFF < c.toNat ∧ c.toNat < 0x110000 := c.valid
  simp only [String.utf8EncodeChar, Char.toNat_val]
  generalize c.toNat = n at *
  split
  · rw [List.singleton_append, lossyFrom_of_char (Start.ofByte_one (by omega)), hc]
  split
  · have hbits : n / 64 % 32 * 64 + n % 64 = n := by omega
    simp only [List.cons_append, List.nil_append]
    rw [lossyFrom_of_sequence (Start.ofByte_two (by omega) (by omega)),
      lossyFrom_continued (by omega) (by grind) (by grind)]
    simp [hbits, hc]
  split
  · have hbits : (n / 4096 % 16 * 64 + n / 64 % 64) * 64 + n % 64 = n := by omega
    simp only [List.cons_append, List.nil_append]
    -- the second byte is in its range because the form is not overlong and `n` no surrogate
    rw [lossyFrom_of_sequence (Start.ofByte_three (by omega)),
      lossyFrom_continued (by omega) (by grind) (by grind)]
    simp only [Nat.reduceSub, Nat.reduceEqDiff, if_false]
    rw [lossyFrom_continued (by omega) (by grind) (by grind)]
    simp [hbits, hc]
  · have hbits : ((n / 262144 % 8 * 64 + n / 4096 % 64) * 64 + n / 64 % 64) * 64 + n % 64 = n := by
      omega
    simp only [List.cons_append, List.nil_append]
    -- the second byte is in its range because the form is not overlong and `n` a code point
    rw [lossyFrom_of_sequence (Start.ofByte_four (by omega)),
      lossyFrom_continued (by omega) (by grind) (by grind)]
    simp only [Nat.reduceSub, Nat.reduceEqDiff, if_false]
    rw [lossyFrom_continued (by omega) (by grind) (by grind)]
    simp only [Nat.reduceSub, Nat.reduceEqDiff, if_false]
    rw [lossyFrom_continued (by omega) (by grind) (by grind)]
    simp [hbits, hc]

/-- No character is the beginning of another one. -/
theorem utf8EncodeChar_append_inj {c d : Char} {xs ys : Bytes}
    (h : String.utf8EncodeChar c ++ xs = String.utf8EncodeChar d ++ ys) :
  c = d ∧ xs = ys
  := by
  have hread := congrArg (lossyFrom none) h
  rw [lossyFrom_utf8EncodeChar, lossyFrom_utf8EncodeChar] at hread
  obtain rfl := (List.cons.inj hread).1
  exact ⟨rfl, List.append_cancel_left h⟩

/-! ### Texts -/

theorem lossyFrom_encodeChars (cs : List Char) :
  lossyFrom none (encodeChars cs) = cs
  := by
  induction cs with
  | nil => rfl
  | cons c cs ih => rw [encodeChars_cons, lossyFrom_utf8EncodeChar, ih]

/-- The bytes of a text are read as that text. -/
@[simp]
theorem decodeLossy_encode (s : String) :
  decodeLossy (encode s) = s
  := by
  rw [decodeLossy, encode_eq_encodeChars, lossyFrom_encodeChars, String.ofList_toList]

end WireSchemas.Text.Utf8
