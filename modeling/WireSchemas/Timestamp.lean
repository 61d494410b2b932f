import WireSchemas.Calendar
import WireSchemas.Text.Integer

/-!
# Timestamps

An instant is a number of seconds since 1970-01-01T00:00:00Z and a part of a second in
nanoseconds.  A part of one second or more marks the leap second that follows the last second of
a minute.  `rfc3339` is the text of an instant in UTC, with no more than the three, six or nine
digits of a fraction that it needs.
-/

namespace WireSchemas

/-- An instant. -/
structure Timestamp where
  seconds : Int
  nanoseconds : Nat
deriving Repr, DecidableEq

namespace Timestamp

/-- The instant 1970-01-01T00:00:00Z. -/
def epoch : Timestamp :=
  ⟨0, 0⟩

instance : Inhabited Timestamp := ⟨epoch⟩

/-- The instant a number of milliseconds after the epoch. -/
def ofMilliseconds (ms : Int) : Timestamp :=
  ⟨ms / 1000, (ms % 1000).toNat * 1000000⟩

/-- A year: four digits, or a sign and at least four digits outside of 0 to 9999. -/
def yearText (year : Int) : List Char :=
  if 0 ≤ year ∧ year ≤ 9999 then Text.padded 4 year.toNat
  else (if year < 0 then '-' else '+') :: Text.padded 4 year.natAbs

/-- A point and three, six or nine digits, or nothing. -/
def fractionText (nanoseconds : Nat) : List Char :=
  if nanoseconds = 0 then []
  else if nanoseconds % 1000000 = 0 then '.' :: Text.padded 3 (nanoseconds / 1000000)
  else if nanoseconds % 1000 = 0 then '.' :: Text.padded 6 (nanoseconds / 1000)
  else '.' :: Text.padded 9 nanoseconds

/-- The RFC 3339 text of an instant in UTC. -/
def rfc3339 (t : Timestamp) : String :=
  let date := Date.ofDayNumber (t.seconds / 86400)
  let second := (t.seconds % 86400).toNat
  let leap := 1000000000 ≤ t.nanoseconds
  String.ofList <|
    yearText date.year ++ '-' :: Text.padded 2 date.month ++ '-' :: Text.padded 2 date.day ++ 'T' ::
      Text.padded 2 (second / 3600) ++ ':' :: Text.padded 2 (second / 60 % 60) ++ ':' ::
      Text.padded 2 (if leap then second % 60 + 1 else second % 60) ++
      fractionText (if leap then t.nanoseconds - 1000000000 else t.nanoseconds) ++ ['Z']

end Timestamp

end WireSchemas
