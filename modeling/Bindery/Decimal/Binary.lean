/-! # Binary floating-point numbers as exact fractions

A finite number of double precision is a sign, a mantissa below 2^53 and a power of two. A decimal is read
as the nearest such number, an exact tie going to the even mantissa; the arithmetic is on natural numbers
throughout. -/

namespace Bindery.Decimal

/-- The number `mantissa · 2^exponent`, or its negative. -/
structure Binary where
  negative : Bool
  mantissa : Nat
  exponent : Int
deriving Repr, DecidableEq, Inhabited

/-- The least exponent of two. -/
def leastExponent : Int := -1074

/-- The greatest exponent of two. -/
def greatestExponent : Int := 971

/-- The number of mantissas. -/
def mantissaBound : Nat := Nat.pow 2 53

/-- A quotient of natural numbers rounded to the nearest, a tie to the even one. -/
def roundDiv (num den : Nat) : Nat :=
  let q := num / den
  let r := num % den
  if 2 * r < den then q else if den < 2 * r then q + 1 else q + q % 2

/-- The fraction `num / den` with numerator and denominator multiplied by powers of `base`. -/
def scale (base : Nat) (e : Int) (num den : Nat) : Nat × Nat :=
  if e < 0 then (num, den * Nat.pow base (-e).toNat) else (num * Nat.pow base e.toNat, den)

/-- The number nearest to the positive fraction `num / den`, unless it is out of range. -/
def nearest? (negative : Bool) (num den : Nat) : Option Binary :=
  let guess : Int := (Nat.log2 num : Int) - Nat.log2 den - 52
  let fits (q : Int) : Bool :=
    let (n, d) := scale 2 (-q) num den
    d * (mantissaBound / 2) ≤ n
  let q := max (if fits guess then guess else guess - 1) leastExponent
  let (n, d) := scale 2 (-q) num den
  let m := roundDiv n d
  let (m, q) := if m = mantissaBound then (mantissaBound / 2, q + 1) else (m, q)
  if greatestExponent < q then none else some ⟨negative, m, q⟩

/-- The number nearest to `digits · 10^e`, unless it is out of range. `digits` has `length` digits. -/
def ofDecimal? (negative : Bool) (digits length : Nat) (e : Int) : Option Binary :=
  if digits = 0 ∨ e + length < -330 then some ⟨negative, 0, leastExponent⟩
  else if 310 < e + length ∧ 310 < e + (Nat.toDigits 10 digits).length then none
  else
    let (num, den) := scale 10 e digits 1
    nearest? negative num den

end Bindery.Decimal
