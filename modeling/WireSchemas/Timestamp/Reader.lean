import WireSchemas.Timestamp
import WireSchemas.Text.Blank
import WireSchemas.Text.LowerCase

/-!
# Reading timestamps

The reader is more generous than RFC 3339: one digit is enough for each number, blanks may stand
before the parts, a space may separate date and time, a signed year may have any number of
digits, digits of the fraction past the ninth are dropped, and `UTC` may stand for the offset.
-/

namespace WireSchemas.Timestamp

/-- The characters from the first that is not blank. -/
def skipBlanks (cs : List Char) : List Char :=
  cs.dropWhile Text.isBlank

/-- The ASCII digits at the front, no more than `limit` of them. -/
def leadingDigits (limit : Nat) (cs : List Char) : List Char :=
  (cs.take limit).takeWhile Char.isDigit

/-- A number of one to `limit` digits within bounds, and what follows it. -/
def number? (limit least greatest : Nat) (cs : List Char) : Option (Nat × List Char) := do
  let digits := leadingDigits limit cs
  let n ← Text.natural? digits
  if least ≤ n ∧ n ≤ greatest then
    some (n, cs.drop digits.length)
  else none

/-- A number with blanks allowed before it. -/
def field? (least greatest : Nat) (cs : List Char) : Option (Nat × List Char) :=
  number? 2 least greatest (skipBlanks cs)

/-- A sign between numbers with blanks allowed before it. -/
def mark? (mark : Char) (cs : List Char) : Option (List Char) :=
  match skipBlanks cs with
  | c :: rest => if c = mark then some rest else none
  | [] => none

/-- The greatest year that a date may have, either way. -/
def greatestYear : Nat := 262142

/-- A year: up to four digits, or a sign and any number of them. -/
def year? (cs : List Char) : Option (Int × List Char) :=
  match skipBlanks cs with
  | '-' :: rest => (number? rest.length 0 (greatestYear + 1) rest).map fun (n, r) => (-(n : Int), r)
  | '+' :: rest => (number? rest.length 0 greatestYear rest).map fun (n, r) => ((n : Int), r)
  | rest => (number? 4 0 greatestYear rest).map fun (n, r) => ((n : Int), r)

/-- The nanoseconds of an optional fraction, and what follows it. -/
def fraction? : List Char → Option (Nat × List Char)
  | '.' :: rest => do
    let digits := leadingDigits 9 rest
    let n ← Text.natural? digits
    return (n * Nat.pow 10 (9 - digits.length), (rest.drop digits.length).dropWhile Char.isDigit)
  | cs => some (0, cs)

/-- The seconds by which local time is ahead of UTC, and what follows the offset. -/
def offset? (cs : List Char) : Option (Int × List Char) :=
  if Text.lowerAscii (String.ofList (cs.take 3)) = "utc" then some (0, cs.drop 3)
  else
    match cs with
    | 'Z' :: rest => some (0, rest)
    | 'z' :: rest => some (0, rest)
    | sign :: h₁ :: h₂ :: rest => do
      let negative ← if sign = '+' then some false
        else if sign = '-' ∨ sign = '\u2212' then some true
        else none
      let hours := 10 * (← Text.digitValue? h₁) + (← Text.digitValue? h₂)
      match rest.dropWhile fun c => c = ':' || Text.isBlank c with
      | m₁ :: m₂ :: after =>
        let tens ← Text.digitValue? m₁
        let units ← Text.digitValue? m₂
        if tens ≤ 5 ∧ hours < 24 then
          let seconds : Int := hours * 3600 + (10 * tens + units) * 60
          some (if negative then -seconds else seconds, after)
        else none
      | _ => none
    | _ => none

/-- The instant that a text denotes. -/
def parse? (s : String) : Option Timestamp := do
  let (year, cs) ← year? s.toList
  let (month, cs) ← field? 1 12 (← mark? '-' cs)
  let (day, cs) ← field? 1 31 (← mark? '-' cs)
  let cs ← match cs with
    | c :: rest => if c = 'T' ∨ c = 't' ∨ c = ' ' then some rest else none
    | [] => none
  let (hour, cs) ← field? 0 23 cs
  let (minute, cs) ← field? 0 59 (← mark? ':' cs)
  let (second, cs) ← field? 0 60 (← mark? ':' cs)
  let (nanoseconds, cs) ← fraction? cs
  let (offset, cs) ← offset? (skipBlanks cs)
  let date : Date := ⟨year, month, day⟩
  if skipBlanks cs = [] ∧ date.Valid then
    let seconds := date.toDayNumber * 86400 + hour * 3600 + minute * 60 + min second 59 - offset
    let utc := Date.ofDayNumber (seconds / 86400)
    if -(greatestYear + 1 : Int) ≤ utc.year ∧ utc.year ≤ greatestYear then
      some ⟨seconds, if second = 60 then nanoseconds + 1000000000 else nanoseconds⟩
    else none
  else none

end WireSchemas.Timestamp
