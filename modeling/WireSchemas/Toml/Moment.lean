import WireSchemas.Calendar
import WireSchemas.Text.Integer

/-!
# Dates and times of TOML

A moment is a date, a time of day, or both and perhaps an offset from UTC.  It is kept as its
text in one form: a `T` between date and time, no zeros at the end of the fraction and no more
than nine digits in it, and `Z` or hours and minutes for the offset.
-/

namespace WireSchemas.Toml

/-- A number of `width` digits within bounds, and what follows it. -/
def numeral? (width least greatest : Nat) (cs : List Char) : Option (Nat × List Char) := do
  let digits := cs.take width
  let n ← Text.natural? digits
  if digits.length = width ∧ least ≤ n ∧ n ≤ greatest then some (n, cs.drop width) else none

/-- What follows a given character. -/
def after? (mark : Char) : List Char → Option (List Char)
  | [] => none
  | c :: rest => if c = mark then some rest else none

/-- The text of a date, and what follows it. -/
def date? (cs : List Char) : Option (List Char × List Char) := do
  let (year, cs) ← numeral? 4 0 9999 cs
  let (month, cs) ← numeral? 2 1 12 (← after? '-' cs)
  let (day, cs) ← numeral? 2 1 31 (← after? '-' cs)
  if (Date.mk year month day).Valid then
    some (Text.padded 4 year ++ '-' :: (Text.padded 2 month ++ '-' :: Text.padded 2 day), cs)
  else none

/-- The text of an optional fraction of a second, and what follows it. -/
def fraction? : List Char → Option (List Char × List Char)
  | '.' :: rest =>
    match rest.takeWhile Char.isDigit with
    | [] => none
    | digits =>
      let kept := ((digits.take 9).reverse.dropWhile (· = '0')).reverse
      some (if kept = [] then [] else '.' :: kept, rest.dropWhile Char.isDigit)
  | cs => some ([], cs)

/-- The text of a time of day, and what follows it. -/
def time? (cs : List Char) : Option (List Char × List Char) := do
  let (hour, cs) ← numeral? 2 0 23 cs
  let (minute, cs) ← numeral? 2 0 59 (← after? ':' cs)
  let (second, cs) ← numeral? 2 0 60 (← after? ':' cs)
  let (fraction, cs) ← fraction? cs
  return (Text.padded 2 hour ++ ':' :: (Text.padded 2 minute ++ ':' :: (Text.padded 2 second ++ fraction)), cs)

/-- The text of an optional offset, and what follows it. -/
def offset? : List Char → Option (List Char × List Char)
  | [] => some ([], [])
  | c :: rest =>
    if c = 'Z' ∨ c = 'z' then some (['Z'], rest)
    else if c = '+' ∨ c = '-' then do
      let (hours, cs) ← numeral? 2 0 23 rest
      let (minutes, cs) ← numeral? 2 0 59 (← after? ':' cs)
      let sign := if hours = 0 ∧ minutes = 0 then '+' else c
      return (sign :: (Text.padded 2 hours ++ ':' :: Text.padded 2 minutes), cs)
    else some ([], c :: rest)

/-- The text of a whole word that is a time of day with an optional offset. -/
def timeWithOffset? (cs : List Char) : Option (List Char) := do
  let (time, cs) ← time? cs
  let (offset, cs) ← offset? cs
  if cs = [] then some (time ++ offset) else none

/-- The text of a word that is a moment, and what follows the moment.  A time may follow a date
after a space, in a word of its own. -/
def moment? (word : List Char) (isWordChar : Char → Bool) (rest : List Char) :
    Option (List Char × List Char) :=
  match date? word with
  | none => do
    let (time, after) ← time? word
    if after = [] then some (time, rest) else none
  | some (date, []) =>
    match rest with
    | ' ' :: more =>
      match more.takeWhile isWordChar with
      | [] => some (date, rest)
      | next =>
        (timeWithOffset? next).map fun time =>
          (date ++ 'T' :: time, more.dropWhile isWordChar)
    | _ => some (date, rest)
  | some (date, c :: time) =>
    if c = 'T' ∨ c = 't' then
      (timeWithOffset? time).map fun time => (date ++ 'T' :: time, rest)
    else none

end WireSchemas.Toml
