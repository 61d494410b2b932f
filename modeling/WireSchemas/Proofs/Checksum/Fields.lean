import Mathlib.Tactic.IntervalCases
import WireSchemas.Checksum

/-!
# The bytes of a list of fields

The checksum of a list of fields is that of a stream in which each field follows its length.  The
stream tells the fields, however many there are and whatever bytes they have, as long as their
lengths fit the eight bytes before them: `Checksum.fieldStream_inj`.  A checksum in turn tells the
digest that it is the text of.
-/

namespace WireSchemas

/-! ### Digests as text -/

namespace Text.Hex

theorem value?_digit {n : Nat} (h : n < 16) :
  value? (digit n) = some n
  := by
  interval_cases n <;> decide

theorem decodeChars?_flatMap_encodeByte (bytes : Bytes) :
  decodeChars? (bytes.flatMap encodeByte) = some bytes
  := by
  induction bytes with
  | nil => rfl
  | cons b rest ih =>
    have hb : b.toNat < 256 := b.toNat_lt
    have hhigh : value? (digit (b.toNat / 16)) = some (b.toNat / 16) := value?_digit (by omega)
    have hlow : value? (digit (b.toNat % 16)) = some (b.toNat % 16) := value?_digit (by omega)
    have hbyte : UInt8.ofNat (16 * (b.toNat / 16) + b.toNat % 16) = b := by
      rw [Nat.div_add_mod, UInt8.ofNat_toNat]
    simp only [List.flatMap_cons, encodeByte, List.cons_append, List.nil_append, decodeChars?,
      hhigh, hlow, ih, Option.bind_eq_bind, Option.bind_some, hbyte, Option.pure_def]

/-- Hexadecimal text is read back to its bytes. -/
@[simp]
theorem decode?_encode (bytes : Bytes) :
  decode? (encode bytes) = some bytes
  := by
  rw [decode?, encode, String.toList_ofList, decodeChars?_flatMap_encodeByte]

theorem encode_inj {bytes bytes' : Bytes} :
  encode bytes = encode bytes' ↔ bytes = bytes'
  := by
  constructor
  · intro h
    simpa using congrArg decode? h
  · rintro rfl
    rfl

end Text.Hex

/-! ### Lengths in eight bytes -/

namespace Sha256

@[simp]
theorem length_bigEndian64 (n : Nat) :
  (bigEndian64 n).length = 8
  := rfl

/-- The number that bytes denote, the high byte first. -/
def ofBigEndian (bytes : Bytes) : Nat :=
  bytes.foldl (fun n b => 256 * n + b.toNat) 0

/-- A number below `2 ^ 64` is read back from its eight bytes. -/
theorem ofBigEndian_bigEndian64 {n : Nat} (h : n < 2 ^ 64) :
  ofBigEndian (bigEndian64 n) = n
  := by
  simp only [ofBigEndian, bigEndian64, List.map_cons, List.map_nil, List.foldl_cons, List.foldl_nil,
    UInt8.toNat_ofNat', Nat.shiftRight_eq_div_pow]
  omega

theorem bigEndian64_inj {n m : Nat} (hn : n < 2 ^ 64) (hm : m < 2 ^ 64) :
  bigEndian64 n = bigEndian64 m ↔ n = m
  := by
  constructor
  · intro h
    have hread := congrArg ofBigEndian h
    rwa [ofBigEndian_bigEndian64 hn, ofBigEndian_bigEndian64 hm] at hread
  · rintro rfl
    rfl

end Sha256

/-! ### Fields -/

namespace Checksum

/-- A field whose length in bytes fits the eight bytes before it. -/
def Short (field : String) : Prop :=
  (Text.Utf8.encode field).length < 2 ^ 64

instance (field : String) : Decidable (Short field) :=
  inferInstanceAs (Decidable (_ < _))

/-- A framed field is told apart from whatever follows it. -/
theorem framed_append_inj {field field' : String} {xs ys : Bytes} (hshort : Short field)
    (hshort' : Short field') :
  framed field ++ xs = framed field' ++ ys ↔ field = field' ∧ xs = ys
  := by
  constructor
  · intro h
    simp only [framed, List.append_assoc] at h
    obtain ⟨hlengths, hrest⟩ := List.append_inj h (by simp)
    have hlength := (Sha256.bigEndian64_inj hshort hshort').1 hlengths
    obtain ⟨hfields, hrest⟩ := List.append_inj hrest hlength
    refine ⟨?_, hrest⟩
    simpa using congrArg Text.Utf8.decode? hfields
  · rintro ⟨rfl, rfl⟩
    rfl

theorem fieldStream_cons (field : String) (fields : List String) :
  fieldStream (field :: fields) = framed field ++ fieldStream fields
  := List.flatMap_cons

theorem fieldStream_eq_nil_iff {fields : List String} :
  fieldStream fields = [] ↔ fields = []
  := by
  cases fields with
  | nil => simp [fieldStream]
  | cons field fields => simp [fieldStream_cons, framed, Sha256.bigEndian64]

/-- The stream of short fields tells them, and how many there are. -/
theorem fieldStream_inj {fields fields' : List String} (hshort : ∀ f ∈ fields, Short f)
    (hshort' : ∀ f ∈ fields', Short f) :
  fieldStream fields = fieldStream fields' ↔ fields = fields'
  := by
  induction fields generalizing fields' with
  | nil => rw [eq_comm, fieldStream_eq_nil_iff.2 rfl, fieldStream_eq_nil_iff, eq_comm]
  | cons field fields ih =>
    cases fields' with
    | nil => rw [fieldStream_eq_nil_iff.2 rfl, fieldStream_eq_nil_iff]
    | cons field' fields' =>
      obtain ⟨hfield, hfields⟩ := List.forall_mem_cons.1 hshort
      obtain ⟨hfield', hfields'⟩ := List.forall_mem_cons.1 hshort'
      rw [fieldStream_cons, fieldStream_cons, framed_append_inj hfield hfield',
        ih hfields hfields', List.cons.injEq]

/-- Checksums are equal when the digests are. -/
theorem ofBytes_eq_iff {bytes bytes' : Bytes} :
  ofBytes bytes = ofBytes bytes' ↔ Sha256.digest bytes = Sha256.digest bytes'
  := Text.Hex.encode_inj

end Checksum

end WireSchemas
