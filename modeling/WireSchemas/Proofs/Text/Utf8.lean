import WireSchemas.Text.Utf8

/-!
# The bytes of characters

A text is encoded character by character.  Characters below U+0080 are single bytes, and no byte of
another character is below 80.
-/

namespace WireSchemas.Text.Utf8

/-- The UTF-8 bytes of characters. -/
def encodeChars (cs : List Char) : Bytes :=
  cs.flatMap String.utf8EncodeChar

@[simp]
theorem encodeChars_nil :
  encodeChars [] = []
  := rfl

theorem encodeChars_append (cs ds : List Char) :
  encodeChars (cs ++ ds) = encodeChars cs ++ encodeChars ds
  := List.flatMap_append

theorem encodeChars_cons (c : Char) (cs : List Char) :
  encodeChars (c :: cs) = String.utf8EncodeChar c ++ encodeChars cs
  := List.flatMap_cons

theorem encode_ofList (cs : List Char) :
  encode (String.ofList cs) = encodeChars cs
  := by
  rw [encode, String.toUTF8, String.toByteArray_ofList, List.utf8Encode]
  simp [encodeChars]

theorem encode_eq_encodeChars (s : String) :
  encode s = encodeChars s.toList
  := by
  rw [← encode_ofList, String.ofList_toList]

/-- A character takes four bytes at most. -/
theorem length_encode_le (s : String) :
  (encode s).length ≤ 4 * s.length
  := by
  rw [encode_eq_encodeChars, ← String.length_toList]
  induction s.toList with
  | nil => simp
  | cons c cs ih =>
    have hc := c.utf8Size_le_four
    rw [encodeChars_cons, List.length_append, String.length_utf8EncodeChar, List.length_cons]
    omega

/-! ### Single characters -/

theorem utf8EncodeChar_of_lt {c : Char} (h : c.toNat < 0x80) :
  String.utf8EncodeChar c = [UInt8.ofNat c.toNat]
  := by
  have hle : c.toNat ≤ 127 := by omega
  simp only [String.utf8EncodeChar, Char.toNat_val, hle, if_true]

theorem le_ofNat_add {n k : Nat} (hk : 0x80 ≤ k) (hlt : n + k < 256) :
  0x80 ≤ UInt8.ofNat (n + k)
  := by
  rw [UInt8.le_iff_toNat_le, UInt8.toNat_ofNat_of_lt' hlt]
  apply Nat.le_trans hk (Nat.le_add_left k n)

theorem le_of_mem_utf8EncodeChar {c : Char} (h : 0x80 ≤ c.toNat) {b : UInt8}
    (hb : b ∈ String.utf8EncodeChar c) :
  0x80 ≤ b
  := by
  have hlt : ¬ c.toNat ≤ 127 := by omega
  simp only [String.utf8EncodeChar, Char.toNat_val, hlt, if_false] at hb
  split at hb
  · simp only [List.mem_cons, List.not_mem_nil, or_false] at hb
    rcases hb with rfl | rfl <;> apply le_ofNat_add <;> omega
  · split at hb
    · simp only [List.mem_cons, List.not_mem_nil, or_false] at hb
      rcases hb with rfl | rfl | rfl <;> apply le_ofNat_add <;> omega
    · simp only [List.mem_cons, List.not_mem_nil, or_false] at hb
      rcases hb with rfl | rfl | rfl | rfl <;> apply le_ofNat_add <;> omega

theorem toNat_ofNat_add {n k : Nat} (h : n + k < 256) :
  (UInt8.ofNat (n + k)).toNat = n + k
  := UInt8.toNat_ofNat_of_lt' h

/-- A byte that stands after the first byte of a character. -/
def IsContinuation (b : UInt8) : Prop :=
  0x80 ≤ b ∧ b < 0xC0

theorem isContinuation_ofNat_add {n : Nat} (h : n < 64) :
  IsContinuation (UInt8.ofNat (n + 128))
  := by
  rw [IsContinuation, UInt8.le_iff_toNat_le, UInt8.lt_iff_toNat_lt,
    toNat_ofNat_add (by omega : n + 128 < 256)]
  constructor
  · apply Nat.le_add_left
  · apply Nat.add_lt_add_right h

theorem not_isContinuation_ofNat_add {n k : Nat} (hk : 192 ≤ k) (h : n + k < 256) :
  ¬ IsContinuation (UInt8.ofNat (n + k))
  := by
  rw [IsContinuation, UInt8.le_iff_toNat_le, UInt8.lt_iff_toNat_lt, toNat_ofNat_add h]
  rintro ⟨-, hlt⟩
  have : n + k < 192 := hlt
  omega

/-- The first byte of a character is no continuation byte, and all others are. -/
theorem exists_utf8EncodeChar_eq_cons (c : Char) :
  ∃ b tail, String.utf8EncodeChar c = b :: tail ∧ ¬ IsContinuation b ∧
    ∀ t ∈ tail, IsContinuation t
  := by
  simp only [String.utf8EncodeChar, Char.toNat_val]
  have hc : c.toNat < 0x110000 := c.valid.elim (fun h => Nat.lt_trans h (by decide)) And.right
  generalize c.toNat = n at hc ⊢
  split
  · next hn =>
    refine ⟨_, [], rfl, ?_, by simp⟩
    rintro ⟨hle, -⟩
    rw [UInt8.le_iff_toNat_le, UInt8.toNat_ofNat_of_lt' (Nat.lt_of_le_of_lt hn (by decide))] at hle
    exact absurd (Nat.le_trans hle hn) (by decide)
  split
  · refine ⟨_, _, rfl, not_isContinuation_ofNat_add (by omega) (by omega), ?_⟩
    simp only [List.mem_cons, List.not_mem_nil, or_false, forall_eq]
    apply isContinuation_ofNat_add (by omega)
  split
  · refine ⟨_, _, rfl, not_isContinuation_ofNat_add (by omega) (by omega), ?_⟩
    simp only [List.mem_cons, List.not_mem_nil, or_false, forall_eq_or_imp, forall_eq]
    exact ⟨isContinuation_ofNat_add (by omega), isContinuation_ofNat_add (by omega)⟩
  · refine ⟨_, _, rfl, not_isContinuation_ofNat_add (by omega) (by omega), ?_⟩
    simp only [List.mem_cons, List.not_mem_nil, or_false, forall_eq_or_imp, forall_eq]
    exact ⟨isContinuation_ofNat_add (by omega), isContinuation_ofNat_add (by omega),
      isContinuation_ofNat_add (by omega)⟩

end WireSchemas.Text.Utf8
