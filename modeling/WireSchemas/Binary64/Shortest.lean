import WireSchemas.Binary64

/-!
# Shortest decimals

The real numbers that round to a given floating-point number form an interval.  The shortest
decimal of the number is the one in the interval with the fewest digits, of those the nearest, and
of two at the same distance the greater.
-/

namespace WireSchemas

/-- The number `digits * 10 ^ exponent`. -/
structure Decimal where
  digits : Nat
  exponent : Int
deriving Repr, DecidableEq

namespace Binary64

/-- The reals that round to a magnitude, in quarters of a unit. -/
structure RoundingInterval where
  low : Nat
  high : Nat
  /-- Whether the ends round to the magnitude too. -/
  closed : Bool
deriving Repr, DecidableEq

/-- The interval of a positive magnitude.  Below a power of two the numbers lie twice as close,
except among the smallest. -/
def roundingInterval (units : Nat) : RoundingInterval :=
  let gap := Nat.pow 2 (gapExponent units)
  let gapBelow := if gapExponent units ≠ 0 ∧ units = Nat.pow 2 units.log2 then gap / 2 else gap
  ⟨4 * units - 2 * gapBelow, 4 * units + 2 * gap, units / gap % 2 == 0⟩

/-- Whether `numerator / scale` quarters of a unit lie in the interval. -/
def RoundingInterval.contains (i : RoundingInterval) (scale numerator : Nat) : Bool :=
  if i.closed then i.low * scale ≤ numerator && numerator ≤ i.high * scale
  else i.low * scale < numerator && numerator < i.high * scale

/-- The digits of decimals are found as integers after scaling by this power of ten, which leaves
at least 18 digits before the point for every positive number. -/
def scaleExponent : Nat := 341

/-- The nearest multiple of `10 ^ (exponent - scaleExponent)` that rounds to a magnitude, if any
multiple does.  Where two do, and neither is nearer, it is the greater. -/
def onGrid? (units exponent : Nat) : Option Decimal :=
  let scale := Nat.pow 10 scaleExponent
  let interval := roundingInterval units
  let step := Nat.pow 10 exponent * (4 * unitsOfOne)
  let value := 4 * units * scale
  let below := value / step
  let take (digits : Nat) : Option Decimal := some ⟨digits, (exponent : Int) - scaleExponent⟩
  match interval.contains scale (below * step), interval.contains scale ((below + 1) * step) with
  | true, true => if 2 * (value % step) < step then take below else take (below + 1)
  | true, false => take below
  | false, true => take (below + 1)
  | false, false => none

/-- The first decimal found from `exponent` downward. -/
def shortestFrom? (units : Nat) : Nat → Option Decimal
  | 0 => onGrid? units 0
  | exponent + 1 =>
    match onGrid? units (exponent + 1) with
    | some d => some d
    | none => shortestFrom? units exponent

/-- The shortest decimal of a magnitude. -/
def shortest (units : Nat) : Decimal :=
  if units = 0 then ⟨0, 0⟩
  else
    let places := (Nat.toDigits 10 (units * Nat.pow 10 scaleExponent / unitsOfOne)).length
    (shortestFrom? units (places - 1)).getD ⟨0, 0⟩

end Binary64

end WireSchemas
