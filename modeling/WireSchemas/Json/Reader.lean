import WireSchemas.Json
import WireSchemas.Text.Hex

/-!
# Reading JSON

A strict reader of bytes: one value with nothing after it but blanks, which are the space, the
tab, the line feed and the carriage return.  Strings hold no raw control characters and their
escapes are well formed.  Whether a string is Unicode text is decided last, by `pieceBytes?` and
UTF-8, and a string that is not makes no syntax error.
-/

namespace WireSchemas.Json

/-- The bytes between tokens that carry nothing. -/
def isSpace (b : UInt8) : Bool :=
  b == 0x20 || b == 0x09 || b == 0x0A || b == 0x0D

/-- The input from its first token on. -/
def skipSpace (input : Bytes) : Bytes :=
  input.dropWhile isSpace

/-! ### Strings -/

/-- A part of a string: a byte, or a numbered UTF-16 unit. -/
inductive Piece where
  | byte (b : UInt8)
  | unit (u : Nat)
deriving Repr, DecidableEq

/-- The byte that a one-letter escape stands for. -/
def escaped? (b : UInt8) : Option UInt8 :=
  if b = 0x22 then some 0x22       -- quotation mark
  else if b = 0x5C then some 0x5C  -- backslash
  else if b = 0x2F then some 0x2F  -- slash
  else if b = 0x62 then some 0x08  -- b
  else if b = 0x66 then some 0x0C  -- f
  else if b = 0x6E then some 0x0A  -- n
  else if b = 0x72 then some 0x0D  -- r
  else if b = 0x74 then some 0x09  -- t
  else none

/-- The unit written by four hexadecimal digits. -/
def unit? (a b c d : UInt8) : Option Nat := do
  let digit (x : UInt8) : Option Nat := Text.Hex.value? (Char.ofNat x.toNat)
  return 4096 * (← digit a) + 256 * (← digit b) + 16 * (← digit c) + (← digit d)

/-- The parts of a string up to its closing mark, and what follows it. -/
def pieces? : Bytes → Option (List Piece × Bytes)
  | [] => none
  | 0x5C :: 0x75 :: a :: b :: c :: d :: rest => do
    let u ← unit? a b c d
    let (ps, after) ← pieces? rest
    return (.unit u :: ps, after)
  | 0x5C :: e :: rest => do
    let b ← escaped? e
    let (ps, after) ← pieces? rest
    return (.byte b :: ps, after)
  | b :: rest =>
    if b = 0x22 then some ([], rest)
    else if b = 0x5C ∨ b < 0x20 then none
    else (pieces? rest).map fun (ps, after) => (.byte b :: ps, after)

/-- The first unit of a surrogate pair. -/
def isHighSurrogate (u : Nat) : Bool :=
  0xD800 ≤ u && u < 0xDC00

/-- The second unit of a surrogate pair. -/
def isLowSurrogate (u : Nat) : Bool :=
  0xDC00 ≤ u && u < 0xE000

/-- The bytes of a string, pairs of surrogates joined; none if a surrogate stands alone. -/
def pieceBytes? : List Piece → Option Bytes
  | [] => some []
  | .byte b :: rest => (pieceBytes? rest).map (b :: ·)
  | .unit u :: .unit v :: rest =>
    if isHighSurrogate u then
      if isLowSurrogate v then
        let code := 0x10000 + (u - 0xD800) * 0x400 + (v - 0xDC00)
        (pieceBytes? rest).map (String.utf8EncodeChar (Char.ofNat code) ++ ·)
      else none
    else if isLowSurrogate u then none
    else (pieceBytes? (.unit v :: rest)).map (String.utf8EncodeChar (Char.ofNat u) ++ ·)
  | .unit u :: rest =>
    if isHighSurrogate u || isLowSurrogate u then none
    else (pieceBytes? rest).map (String.utf8EncodeChar (Char.ofNat u) ++ ·)

/-- The text of a string, if it is Unicode text. -/
def pieceText? (pieces : List Piece) : Option String :=
  (pieceBytes? pieces).bind Text.Utf8.decode?

/-! ### Numbers -/

/-- The bytes of the digits 0 to 9. -/
def isDigit (b : UInt8) : Bool :=
  0x30 ≤ b && b ≤ 0x39

/-- The number that a row of digits denotes. -/
def digitsValue (digits : Bytes) : Nat :=
  digits.foldl (fun n b => 10 * n + (b.toNat - 0x30)) 0

/-- One or more digits, and what follows them. -/
def digits? (input : Bytes) : Option (Bytes × Bytes) :=
  match input.takeWhile isDigit with
  | [] => none
  | ds => some (ds, input.dropWhile isDigit)

/-- The digits before the point, where a zero stands alone. -/
def whole? : Bytes → Option (Bytes × Bytes)
  | 0x30 :: rest => some ([0x30], rest)
  | input => digits? input

/-- What follows an optional fraction, and whether there is one. -/
def fraction? : Bytes → Option (Bool × Bytes)
  | 0x2E :: rest => (digits? rest).map fun (_, after) => (true, after)
  | input => some (false, input)

/-- What follows an optional exponent, and whether there is one. -/
def exponent? : Bytes → Option (Bool × Bytes)
  | b :: rest =>
    if b = 0x65 ∨ b = 0x45 then
      let unsigned := match rest with
        | 0x2B :: r => r
        | 0x2D :: r => r
        | r => r
      (digits? unsigned).map fun (_, after) => (true, after)
    else some (false, b :: rest)
  | [] => some (false, [])

/-- A number, and what follows it. -/
def number? (input : Bytes) : Option (Json × Bytes) := do
  let (negative, start) := match input with
    | 0x2D :: rest => (true, rest)
    | _ => (false, input)
  let (ds, afterWhole) ← whole? start
  let (hasFraction, afterFraction) ← fraction? afterWhole
  let (hasExponent, after) ← exponent? afterFraction
  let n := digitsValue ds
  let integer : Option Int :=
    if hasFraction || hasExponent || (negative && n == 0) then none
    else some (if negative then -(n : Int) else n)
  return (.number integer, after)

/-! ### Values -/

/-- What follows a given row of bytes. -/
def afterToken? : Bytes → Bytes → Option Bytes
  | [], input => some input
  | _ :: _, [] => none
  | t :: token, b :: input => if t = b then afterToken? token input else none

mutual

/-- A value, and what follows it. -/
def value? : Nat → Bytes → Option (Json × Bytes)
  | 0, _ => none
  | fuel + 1, input =>
    match skipSpace input with
    | [] => none
    | b :: rest =>
      if b = 0x22 then
        (pieces? rest).map fun (ps, after) => (.string (pieceText? ps), after)
      else if b = 0x7B then
        match skipSpace rest with
        | 0x7D :: after => some (.object [], after)
        | start => (members? fuel start).map fun (ms, after) => (.object ms, after)
      else if b = 0x5B then
        match skipSpace rest with
        | 0x5D :: after => some (.array [], after)
        | start => (elements? fuel start).map fun (es, after) => (.array es, after)
      else if b = 0x6E then (afterToken? [0x75, 0x6C, 0x6C] rest).map fun after => (.null, after)
      else if b = 0x74 then
        (afterToken? [0x72, 0x75, 0x65] rest).map fun after => (.bool true, after)
      else if b = 0x66 then
        (afterToken? [0x61, 0x6C, 0x73, 0x65] rest).map fun after => (.bool false, after)
      else number? (b :: rest)

/-- One or more elements with commas between them, and what follows the closing bracket. -/
def elements? : Nat → Bytes → Option (List Json × Bytes)
  | 0, _ => none
  | fuel + 1, input => do
    let (e, afterValue) ← value? fuel input
    match skipSpace afterValue with
    | 0x2C :: rest =>
      let (es, after) ← elements? fuel rest
      return (e :: es, after)
    | 0x5D :: after => return ([e], after)
    | _ => none

/-- One or more members with commas between them, and what follows the closing brace. -/
def members? : Nat → Bytes → Option (List (Option String × Json) × Bytes)
  | 0, _ => none
  | fuel + 1, input => do
    let start ← afterToken? [0x22] (skipSpace input)
    let (ps, afterKey) ← pieces? start
    let colon ← afterToken? [0x3A] (skipSpace afterKey)
    let (v, afterValue) ← value? fuel colon
    match skipSpace afterValue with
    | 0x2C :: rest =>
      let (ms, after) ← members? fuel rest
      return ((pieceText? ps, v) :: ms, after)
    | 0x7D :: after => return ([(pieceText? ps, v)], after)
    | _ => none

end

/-- The value written by the whole of the input.  Each step of the reader consumes a byte or goes
from a list to its first element, so the fuel suffices. -/
def parse? (input : Bytes) : Option Json :=
  match value? (2 * input.length + 1) input with
  | some (v, rest) => if skipSpace rest = [] then some v else none
  | none => none

end WireSchemas.Json
