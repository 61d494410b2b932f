import WireSchemas.Checksum

/-!
# Digests in progress

A hasher takes a message piece by piece: it absorbs every block as soon as it is whole and keeps the
rest.  However the message is cut, the digest is that of the whole, so a checksum of fields that are
hashed one after the other is the checksum of their stream: `Checksum.hashed_eq_ofFields`.
-/

namespace WireSchemas

namespace Sha256

/-! ### Blocks -/

/-- The bytes after the last whole block. -/
def afterBlocks (bytes : Bytes) : Bytes :=
  bytes.drop (64 * (bytes.length / 64))

theorem afterBlocks_append (xs ys : Bytes) :
  afterBlocks (afterBlocks xs ++ ys) = afterBlocks (xs ++ ys)
  := by
  let blocks := 64 * (xs.length / 64)
  have hle : blocks ≤ xs.length := by omega
  have hrest : afterBlocks xs ++ ys = (xs ++ ys).drop blocks :=
    (List.drop_append_of_le_length hle).symm
  have hlength : blocks + 64 * (((xs ++ ys).drop blocks).length / 64) =
      64 * ((xs ++ ys).length / 64) := by
    rw [List.length_drop, List.length_append]
    omega
  rw [hrest, afterBlocks, List.drop_drop, hlength]
  rfl

theorem absorb_of_le {s : State} {bytes : Bytes} (h : 64 ≤ bytes.length) :
  absorb s bytes = absorb (compress s (bytes.take 64)) (bytes.drop 64)
  := by
  rw [absorb, dif_pos h]

theorem absorb_of_lt {s : State} {bytes : Bytes} (h : bytes.length < 64) :
  absorb s bytes = s
  := by
  rw [absorb, dif_neg (by omega)]

theorem afterBlocks_of_lt {bytes : Bytes} (h : bytes.length < 64) :
  afterBlocks bytes = bytes
  := by
  rw [afterBlocks, Nat.div_eq_of_lt h]
  rfl

theorem afterBlocks_drop {bytes : Bytes} (h : 64 ≤ bytes.length) :
  afterBlocks (bytes.drop 64) = afterBlocks bytes
  := by
  have hlength : 64 + 64 * ((bytes.drop 64).length / 64) = 64 * (bytes.length / 64) := by
    rw [List.length_drop]
    omega
  rw [afterBlocks, List.drop_drop, hlength, afterBlocks]

/-- Bytes are absorbed block by block: what is left of some is absorbed with those that follow. -/
theorem absorb_append (s : State) (xs ys : Bytes) :
  absorb s (xs ++ ys) = absorb (absorb s xs) (afterBlocks xs ++ ys)
  := by
  induction s, xs using absorb.induct with
  | case1 s xs hblock ih =>
    have hlonger : 64 ≤ (xs ++ ys).length := by
      rw [List.length_append]
      omega
    rw [absorb_of_le hlonger, List.take_append_of_le_length hblock,
      List.drop_append_of_le_length hblock, ih, absorb_of_le hblock, afterBlocks_drop hblock]
  | case2 s xs hshort =>
    have hlt : xs.length < 64 := by omega
    rw [absorb_of_lt hlt, afterBlocks_of_lt hlt]

/-! ### Hashers -/

/-- A digest in progress. -/
structure Hasher where
  /-- The state after the whole blocks. -/
  state : State
  /-- The bytes after the last whole block. -/
  pending : Bytes
  /-- The number of bytes so far. -/
  length : Nat

namespace Hasher

/-- No bytes so far. -/
def start : Hasher :=
  ⟨.start, [], 0⟩

/-- More bytes. -/
def update (h : Hasher) (bytes : Bytes) : Hasher :=
  ⟨absorb h.state (h.pending ++ bytes), afterBlocks (h.pending ++ bytes), h.length + bytes.length⟩

/-- The digest of the bytes so far: they are padded, and the last blocks absorbed. -/
def finish (h : Hasher) : Bytes :=
  let zeros := (119 - h.length % 64) % 64
  let s := absorb h.state
    (h.pending ++ 0x80 :: List.replicate zeros 0 ++ bigEndian64 (8 * h.length))
  [s.a, s.b, s.c, s.d, s.e, s.f, s.g, s.h].flatMap wordBytes

/-- A hasher was fed a message. -/
structure Fed (h : Hasher) (message : Bytes) : Prop where
  state : h.state = absorb .start message
  pending : h.pending = afterBlocks message
  length : h.length = message.length

theorem fed_start :
  start.Fed []
  := ⟨(absorb_of_lt (by decide)).symm, rfl, rfl⟩

variable {h : Hasher} {message : Bytes}

/-- The pieces of a message are put together. -/
theorem Fed.update (hfed : h.Fed message) (bytes : Bytes) :
  (h.update bytes).Fed (message ++ bytes)
  := by
  constructor
  · rw [Hasher.update, hfed.state, hfed.pending, absorb_append .start message]
  · rw [Hasher.update, hfed.pending, afterBlocks_append]
  · rw [Hasher.update, hfed.length, List.length_append]

/-- The digest is that of the message. -/
theorem Fed.finish (hfed : h.Fed message) :
  h.finish = digest message
  := by
  have hpadded (padding : Bytes) :
      absorb h.state (h.pending ++ padding) = absorb .start (message ++ padding) := by
    rw [hfed.state, hfed.pending, absorb_append .start message]
  simp only [Hasher.finish, digest, pad, hfed.length, List.append_assoc, hpadded]

end Hasher

end Sha256

namespace Checksum

open Sha256

/-- A hasher after one more field: its length, then its bytes. -/
def hashField (h : Hasher) (field : String) : Hasher :=
  let bytes := Text.Utf8.encode field
  (h.update (bigEndian64 bytes.length)).update bytes

/-- The checksum of fields that are hashed one after the other. -/
def hashed (fields : List String) : String :=
  Text.Hex.encode (fields.foldl hashField .start).finish

theorem fed_foldl_hashField {h : Hasher} {message : Bytes} (hfed : h.Fed message)
    (fields : List String) :
  (fields.foldl hashField h).Fed (message ++ fieldStream fields)
  := by
  induction fields generalizing h message with
  | nil => simpa [fieldStream] using hfed
  | cons field fields ih =>
    have hfield := (hfed.update (bigEndian64 (Text.Utf8.encode field).length)).update
      (Text.Utf8.encode field)
    have hstream : message ++ fieldStream (field :: fields) =
        message ++ bigEndian64 (Text.Utf8.encode field).length ++ Text.Utf8.encode field ++
          fieldStream fields := by
      simp [fieldStream, framed]
    rw [hstream]
    apply ih hfield

/-- Fields that are hashed one after the other have the checksum of their stream. -/
theorem hashed_eq_ofFields (fields : List String) :
  hashed fields = ofFields fields
  := by
  have hfed := fed_foldl_hashField Hasher.fed_start fields
  rw [hashed, hfed.finish]
  rfl

end Checksum

end WireSchemas
