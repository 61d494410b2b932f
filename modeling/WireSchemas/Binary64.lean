/-!
# Floating-point numbers

A `Binary64` is a binary floating-point number of 64 bits, taken as a mathematical object: the
magnitude of a finite one is a multiple of the least positive number, `2 ^ -1074`, with no more
than 53 significant bits.  Rounding goes to the nearest number, and from halfway to the one whose
last significant bit is zero.
-/

namespace WireSchemas

/-- A floating-point number. -/
inductive Binary64 where
  | nan
  | infinity (negative : Bool)
  /-- A multiple of `2 ^ -1074`, with a sign that zero has too. -/
  | finite (negative : Bool) (units : Nat)
deriving Repr, DecidableEq

namespace Binary64

/-- The number of units in one. -/
def unitsOfOne : Nat := Nat.pow 2 1074

/-- The number of units that is too large for a finite number. -/
def overflow : Nat := Nat.pow 2 2098

/-- The binary logarithm of the distance between the numbers around a magnitude. -/
def gapExponent (units : Nat) : Nat :=
  units.log2 - 52

/-- The integer nearest to a quotient, from halfway the even one. -/
def divideToEven (numerator denominator : Nat) : Nat :=
  let q := numerator / denominator
  let doubled := 2 * (numerator % denominator)
  if doubled < denominator ∨ (doubled = denominator ∧ q % 2 = 0) then q else q + 1

/-- The magnitude nearest to a quotient of units. -/
def roundUnits (numerator denominator : Nat) : Nat :=
  let gap := Nat.pow 2 (gapExponent (numerator / denominator))
  divideToEven numerator (denominator * gap) * gap

/-- The number nearest to a quotient of units. -/
def ofUnits (negative : Bool) (numerator denominator : Nat) : Binary64 :=
  let units := roundUnits numerator denominator
  if overflow ≤ units then infinity negative else finite negative units

/-- The number nearest to `digits * 10 ^ exponent`.  Where the power of ten alone decides that the
number is infinite or zero, it is not computed. -/
def ofDecimal (negative : Bool) (digits : Nat) (exponent : Int) : Binary64 :=
  let places := (Nat.toDigits 10 digits).length
  if digits = 0 ∨ exponent + places < -330 then finite negative 0
  else if 330 < exponent + places then infinity negative
  else if 0 ≤ exponent then ofUnits negative (digits * Nat.pow 10 exponent.toNat * unitsOfOne) 1
  else ofUnits negative (digits * unitsOfOne) (Nat.pow 10 (-exponent).toNat)

/-- Zero of either sign. -/
def isZero : Binary64 → Bool
  | finite _ units => units == 0
  | _ => false

end Binary64

end WireSchemas
