import WireSchemas.Binary64.Text
import WireSchemas.Text.Hex

/-!
# Numbers of TOML

Single underscores may stand between digits.  A decimal integer has no leading zero, and the
integers in other bases have no sign; all lie in the range of 64 bits.  A float has a fraction or
an exponent, with digits on both sides of its point, and one that is too large is refused.
-/

namespace WireSchemas.Toml

/-- The digits of a number without the underscores between them. -/
def ungroup? (isDigit : Char → Bool) : List Char → Option (List Char)
  | [] => none
  | [c] => if isDigit c then some [c] else none
  | c :: '_' :: more => if isDigit c then (ungroup? isDigit more).map (c :: ·) else none
  | c :: d :: more => if isDigit c then (ungroup? isDigit (d :: more)).map (c :: ·) else none

/-- Decimal digits without a leading zero. -/
def wholeDigits? (cs : List Char) : Option (List Char) :=
  (ungroup? Char.isDigit cs).filter fun ds => ds.length = 1 || ds.head? != some '0'

/-- A sign, if there is one, and the rest; true for a minus. -/
def signed : List Char → Bool × List Char
  | '+' :: rest => (false, rest)
  | '-' :: rest => (true, rest)
  | cs => (false, cs)

/-- The type of integers. -/
def integerType : Text.IntegerType := ⟨true, 64⟩

/-- The integer written in a base by digits with a value below it. -/
def inBase? (base : Nat) (cs : List Char) : Option Nat := do
  let isDigit (c : Char) : Bool := (Text.Hex.value? c).any (· < base)
  let ds ← ungroup? isDigit cs
  ds.foldlM (fun n c => (Text.Hex.value? c).map (base * n + ·)) 0

/-- The integer that a word denotes. -/
def integer? (cs : List Char) : Option Int :=
  let n : Option Int :=
    match cs with
    | '0' :: 'x' :: rest => (inBase? 16 rest).map Int.ofNat
    | '0' :: 'o' :: rest => (inBase? 8 rest).map Int.ofNat
    | '0' :: 'b' :: rest => (inBase? 2 rest).map Int.ofNat
    | _ =>
      let (negative, unsigned) := signed cs
      ((wholeDigits? unsigned).bind Text.natural?).map fun n => if negative then -n else n
  n.filter fun n => decide (integerType.Holds n)

/-- The exponent after its letter. -/
def power? (cs : List Char) : Option Int := do
  let (negative, unsigned) := signed cs
  let n ← (ungroup? Char.isDigit unsigned).bind Text.natural?
  return if negative then -(n : Int) else n

/-- The finite float that a word without its sign denotes. -/
def decimal? (negative : Bool) (cs : List Char) : Option Binary64 := do
  let (mantissa, power) := Binary64.cutAt (fun c => c = 'e' || c = 'E') cs
  let (whole, fraction) := Binary64.cutAt (· = '.') mantissa
  let ws ← wholeDigits? whole
  match fraction, power with
  | none, none => none
  | some f, none => Binary64.ofParts? negative ws (← ungroup? Char.isDigit f) 0
  | none, some p => Binary64.ofParts? negative ws [] (← power? p)
  | some f, some p => Binary64.ofParts? negative ws (← ungroup? Char.isDigit f) (← power? p)

/-- The float that a word denotes. -/
def float? (cs : List Char) : Option Binary64 :=
  let (negative, unsigned) := signed cs
  if unsigned = ['i', 'n', 'f'] then some (.infinity negative)
  else if unsigned = ['n', 'a', 'n'] then some .nan
  else (decimal? negative unsigned).filter fun x => x != .infinity false

end WireSchemas.Toml
