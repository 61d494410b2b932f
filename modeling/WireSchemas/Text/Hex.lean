import WireSchemas.Text.Utf8

/-!
# Lower-case hexadecimal text

Two digits for each byte, the high half first.  Reading takes digits of either case.
-/

namespace WireSchemas.Text.Hex

/-- The lower-case digit of a number below sixteen. -/
def digit (n : Nat) : Char :=
  if n < 10 then Char.ofNat (0x30 + n) else Char.ofNat (0x57 + n)

/-- The value of a digit of either case. -/
def value? (c : Char) : Option Nat :=
  if '0' ≤ c ∧ c ≤ '9' then some (c.toNat - 0x30)
  else if 'a' ≤ c ∧ c ≤ 'f' then some (c.toNat - 0x57)
  else if 'A' ≤ c ∧ c ≤ 'F' then some (c.toNat - 0x37)
  else none

/-- The two digits of a byte. -/
def encodeByte (b : UInt8) : List Char :=
  [digit (b.toNat / 16), digit (b.toNat % 16)]

/-- The digits of a list of bytes. -/
def encode (bytes : Bytes) : String :=
  String.ofList (bytes.flatMap encodeByte)

/-- The bytes written as pairs of digits. -/
def decodeChars? : List Char → Option Bytes
  | [] => some []
  | [_] => none
  | high :: low :: rest => do
    let h ← value? high
    let l ← value? low
    let tail ← decodeChars? rest
    return UInt8.ofNat (16 * h + l) :: tail

/-- The bytes of a hexadecimal text. -/
def decode? (s : String) : Option Bytes :=
  decodeChars? s.toList

end WireSchemas.Text.Hex
