/-!
# Texts as bytes

A text is stored as its UTF-8 bytes.  `decode?` reads well-formed bytes only; `decodeLossy` reads
any bytes, with one replacement character for each maximal part of a broken sequence.
-/

namespace WireSchemas

/-- A message body, an encoded header block or a schema definition. -/
abbrev Bytes := List UInt8

namespace Text.Utf8

/-- The UTF-8 bytes of a text. -/
def encode (s : String) : Bytes :=
  s.toUTF8.data.toList

/-- The text with the given UTF-8 bytes, if they are well formed. -/
def decode? (bytes : Bytes) : Option String :=
  String.fromUTF8? ⟨bytes.toArray⟩

/-! ### Lossy reading -/

/-- The beginning of a sequence: the bits read so far, the number of continuation bytes still to
come, and the range of the next one. -/
structure Unfinished where
  bits : Nat
  missing : Nat
  low : Nat
  high : Nat
deriving Repr, DecidableEq

/-- What a first byte begins: a character, a longer sequence, or nothing. -/
inductive Start where
  | char (c : Char)
  | sequence (p : Unfinished)
  | invalid
deriving Repr

/-- The sequence begun by a byte.  The range of the second byte excludes overlong forms,
surrogates and values past the last code point. -/
def Start.ofByte (b : UInt8) : Start :=
  let n := b.toNat
  if n < 0x80 then .char (Char.ofNat n)
  else if n < 0xC2 then .invalid
  else if n < 0xE0 then .sequence ⟨n - 0xC0, 1, 0x80, 0xBF⟩
  else if n < 0xF0 then
    .sequence ⟨n - 0xE0, 2, if n = 0xE0 then 0xA0 else 0x80, if n = 0xED then 0x9F else 0xBF⟩
  else if n < 0xF5 then
    .sequence ⟨n - 0xF0, 3, if n = 0xF0 then 0x90 else 0x80, if n = 0xF4 then 0x8F else 0xBF⟩
  else .invalid

/-- The character in place of a broken sequence. -/
def replacement : Char := '\uFFFD'

/-- The characters of the bytes that follow an unfinished sequence, if there is one. -/
def lossyFrom (pending : Option Unfinished) : Bytes → List Char
  | [] => if pending.isSome then [replacement] else []
  | b :: rest =>
    let fresh (broken : List Char) : List Char :=
      match Start.ofByte b with
      | .char c => broken ++ c :: lossyFrom none rest
      | .sequence p => broken ++ lossyFrom (some p) rest
      | .invalid => broken ++ replacement :: lossyFrom none rest
    match pending with
    | none => fresh []
    | some p =>
      if p.low ≤ b.toNat ∧ b.toNat ≤ p.high then
        let bits := p.bits * 64 + (b.toNat - 0x80)
        if p.missing = 1 then
          Char.ofNat bits :: lossyFrom none rest
        else
          lossyFrom (some ⟨bits, p.missing - 1, 0x80, 0xBF⟩) rest
      else
        fresh [replacement]

/-- The text of arbitrary bytes. -/
def decodeLossy (bytes : Bytes) : String :=
  String.ofList (lossyFrom none bytes)

/-! ### Basic facts -/

@[simp]
theorem decode?_encode (s : String) :
  decode? (encode s) = some s
  := by
  simp only [decode?, encode, Array.toArray_toList]
  rw [String.fromUTF8?]
  split
  · rfl
  · rename_i h
    exact absurd s.isValidUTF8 h

theorem encode_of_decode? {bytes : Bytes} {s : String} (h : decode? bytes = some s) :
  encode s = bytes
  := by
  simp only [decode?, String.fromUTF8?] at h
  split at h
  · cases h
    rfl
  · simp at h

end Text.Utf8

end WireSchemas
