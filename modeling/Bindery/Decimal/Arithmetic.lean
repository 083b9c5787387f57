import Bindery.Decimal.Binary

/-! # Products, quotients and the order of binary numbers

A product or quotient is the number nearest to the exact one. Comparison is exact: both numbers are brought
to a common denominator. -/

namespace Bindery.Decimal.Binary

/-- Zero, or negative zero. -/
def zero (negative : Bool) : Binary := ⟨negative, 0, leastExponent⟩

/-- The exact value of a number without its sign, as a fraction. -/
def fraction (b : Binary) : Nat × Nat := scale 2 b.exponent b.mantissa 1

/-- The exact value of a number as a fraction. -/
def signedFraction (b : Binary) : Int × Nat :=
  let (n, d) := b.fraction
  (if b.negative then -(n : Int) else n, d)

/-- The number nearest to a fraction, unless it is out of range. -/
def ofFraction? (negative : Bool) (num den : Nat) : Option Binary :=
  if num = 0 then some (zero negative) else nearest? negative num den

/-- The number nearest to an integer, unless it is out of range. -/
def ofInt? (n : Int) : Option Binary := ofFraction? (n < 0) n.natAbs 1

/-- A product, unless it is out of range. -/
def mul? (a b : Binary) : Option Binary :=
  ofFraction? (a.negative != b.negative) (a.fraction.1 * b.fraction.1) (a.fraction.2 * b.fraction.2)

/-- A quotient, unless it is out of range or there is none. -/
def div? (a b : Binary) : Option Binary :=
  if b.mantissa = 0 then none
  else ofFraction? (a.negative != b.negative) (a.fraction.1 * b.fraction.2) (a.fraction.2 * b.fraction.1)

/-- The order of two fractions with positive denominators. -/
def compareFractions (a b : Int × Nat) : Ordering := compare (a.1 * b.2) (b.1 * a.2)

/-- The order of two numbers. The two zeros are equal. -/
def compare (a b : Binary) : Ordering := compareFractions a.signedFraction b.signedFraction

/-- Whether a number has all the digits of its precision: it is not zero, nor too small for them. -/
def isNormal (b : Binary) : Bool := mantissaBound / 2 ≤ b.mantissa

end Bindery.Decimal.Binary
