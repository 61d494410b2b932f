import WireSchemas.Binary64.Shortest
import WireSchemas.Text.Integer
import WireSchemas.Text.LowerCase

/-!
# Floating-point numbers as text

A number is written with the digits of its shortest decimal, never with an exponent, and with a
point only before a fraction.  The reader takes digits with a point among, before or after them,
an exponent, a sign, and the names of infinity and of the undefined number in any case.
-/

namespace WireSchemas.Binary64

/-! ### Writing -/

/-- Decimal places before and after the point. -/
def pointed (whole fraction : List Char) : List Char :=
  if fraction = [] then whole else whole ++ '.' :: fraction

/-- A decimal without an exponent. -/
def decimalChars (d : Decimal) : List Char :=
  let digits := Text.naturalDigits d.digits
  if 0 ≤ d.exponent then digits ++ List.replicate d.exponent.toNat '0'
  else
    let places := (-d.exponent).toNat
    let padded := List.replicate (places + 1 - digits.length) '0' ++ digits
    let fraction := padded.drop (padded.length - places)
    pointed (padded.take (padded.length - places)) (fraction.reverse.dropWhile (· = '0')).reverse

/-- The text of a number. -/
def toText : Binary64 → String
  | nan => "NaN"
  | infinity negative => if negative then "-inf" else "inf"
  | finite negative units =>
    let digits := decimalChars (shortest units)
    String.ofList (if negative then '-' :: digits else digits)

/-! ### Reading -/

/-- The exponent after its letter: a sign and digits. -/
def exponent? : List Char → Option Int :=
  Text.IntegerType.signedNumber? true

/-- The parts of a text around the first character that passes a test, which is in neither. -/
def cutAt (mark : Char → Bool) (cs : List Char) : List Char × Option (List Char) :=
  match cs.dropWhile fun c => !mark c with
  | [] => (cs, none)
  | _ :: rest => (cs.takeWhile fun c => !mark c, some rest)

/-- The number written by the digits around a point and an exponent. -/
def ofParts? (negative : Bool) (whole fraction : List Char) (exponent : Int) : Option Binary64 :=
  (Text.natural? (whole ++ fraction)).map fun digits =>
    ofDecimal negative digits (exponent - fraction.length)

/-- A number without its sign. -/
def unsigned? (negative : Bool) (cs : List Char) : Option Binary64 :=
  let word := Text.lowerAscii (String.ofList cs)
  if word = "inf" ∨ word = "infinity" then some (infinity negative)
  else if word = "nan" then some nan
  else
    let (mantissa, power) := cutAt (fun c => c = 'e' || c = 'E') cs
    let (whole, fraction) := cutAt (· = '.') mantissa
    match power with
    | none => ofParts? negative whole (fraction.getD []) 0
    | some p => (exponent? p).bind (ofParts? negative whole (fraction.getD []))

/-- The number that a text denotes. -/
def parse? (s : String) : Option Binary64 :=
  match s.toList with
  | '+' :: rest => unsigned? false rest
  | '-' :: rest => unsigned? true rest
  | cs => unsigned? false cs

end WireSchemas.Binary64
