/-!
# Integers in decimal

`IntegerType` is a machine width with or without a sign, and `IntegerType.parse?` reads a number
of that type: a sign, then one or more of the digits 0 to 9, leading zeros allowed, within the
range.  A minus sign is for signed types only; even `-0` is no unsigned number.
-/

namespace WireSchemas.Text

/-- The value of an ASCII digit. -/
def digitValue? (c : Char) : Option Nat :=
  if '0' ≤ c ∧ c ≤ '9' then some (c.toNat - 0x30) else none

/-- The number read by appending digits to `acc`. -/
def naturalFrom? (acc : Nat) : List Char → Option Nat
  | [] => some acc
  | c :: rest => (digitValue? c).bind fun d => naturalFrom? (10 * acc + d) rest

/-- The number written by one or more digits. -/
def natural? : List Char → Option Nat
  | [] => none
  | cs => naturalFrom? 0 cs

/-- The decimal digits of a natural number. -/
def naturalDigits (n : Nat) : List Char :=
  Nat.toDigits 10 n

/-- The decimal digits of a natural number, with zeros before them up to a width. -/
def padded (width n : Nat) : List Char :=
  let digits := naturalDigits n
  List.replicate (width - digits.length) '0' ++ digits

/-- The decimal text of an integer. -/
def integerText (n : Int) : String :=
  String.ofList (if n < 0 then '-' :: naturalDigits n.natAbs else naturalDigits n.natAbs)

/-- The integer types of a given width in bits. -/
structure IntegerType where
  signed : Bool
  bits : Nat
deriving Repr, DecidableEq

namespace IntegerType

/-- The least number of a type. -/
def least (t : IntegerType) : Int :=
  if t.signed then -(Nat.pow 2 (t.bits - 1) : Int) else 0

/-- The greatest number of a type. -/
def greatest (t : IntegerType) : Int :=
  if t.signed then (Nat.pow 2 (t.bits - 1) : Int) - 1 else (Nat.pow 2 t.bits : Int) - 1

/-- Membership in the range of a type. -/
def Holds (t : IntegerType) (n : Int) : Prop :=
  t.least ≤ n ∧ n ≤ t.greatest

instance (t : IntegerType) (n : Int) : Decidable (t.Holds n) :=
  inferInstanceAs (Decidable (_ ∧ _))

/-- The number written by an optional sign and digits. -/
def signedNumber? (signed : Bool) : List Char → Option Int
  | '+' :: rest => (natural? rest).map Int.ofNat
  | '-' :: rest => if signed then (natural? rest).map fun n => -(n : Int) else none
  | cs => (natural? cs).map Int.ofNat

/-- The number of type `t` that a text denotes. -/
def parse? (t : IntegerType) (s : String) : Option Int :=
  (signedNumber? t.signed s.toList).filter fun n => decide (t.Holds n)

end IntegerType

end WireSchemas.Text
