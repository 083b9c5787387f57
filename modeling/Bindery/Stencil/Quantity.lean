import Bindery.Decimal.Arithmetic
import Bindery.Decimal.Shortest

/-! # Numbers in data

A number is an integer of 64 bits, with or without a sign, or a binary number of double precision. A number
that is written without a point and an exponent is an integer if it fits, except for a negative zero. Of the
digits of any other number those are kept, from the left, that fit in 64 bits; they are rounded to double
precision, and multiplied or divided by the power of ten, which is rounded as well. -/

namespace Bindery.Stencil

open Decimal (Binary)

/-- A number. -/
inductive Quantity where
  | whole (n : Int)
  | real (b : Binary)
deriving Repr, DecidableEq, Inhabited

/-- A number as text. -/
def Quantity.show : Quantity → String
  | whole n => toString n
  | real b => b.showSigned "+"

namespace Quantity

/-- Numbers are the same if they are of one kind and equal; the two zeros are. -/
def same : Quantity → Quantity → Bool
  | whole a, whole b => a == b
  | real a, real b => a.compare b == .eq
  | _, _ => false

/-- The exact value as a fraction. -/
def fraction : Quantity → Int × Nat
  | whole n => (n, 1)
  | real b => b.signedFraction

/-- The order of two numbers. -/
def compare (a b : Quantity) : Ordering := Binary.compareFractions a.fraction b.fraction

/-- The nearest number of double precision. -/
def rounded : Quantity → Binary
  | whole n => (Binary.ofInt? n).getD (.zero false)
  | real b => b

/-- Whether a number counts as true: it is not zero, nor too small for all the digits of its precision. -/
def holds (q : Quantity) : Bool := q.rounded.isNormal

/-! ### Reading -/

/-- Numbers of 64 bits without a sign are below this bound. -/
def wordBound : Nat := Nat.pow 2 64

/-- The digits of a number as far as they have been kept. -/
structure Kept where
  /-- What the kept digits write. -/
  value : Nat
  /-- The power of ten that they are to be multiplied with. -/
  scale : Int
  /-- Whether a digit has been left out. -/
  full : Bool
deriving Repr, DecidableEq, Inhabited

namespace Kept

/-- No digits. -/
def none : Kept := ⟨0, 0, false⟩

/-- Takes in a digit; one that is left out counts `lost` in the scale, and one that is kept `gained`. -/
def add (lost gained : Int) (k : Kept) (digit : Nat) : Kept :=
  let value := k.value * 10 + digit
  if k.full ∨ wordBound ≤ value then ⟨k.value, k.scale + lost, true⟩ else ⟨value, k.scale + gained, false⟩

/-- Takes in the digits before the point. -/
def addWhole (k : Kept) (digits : List Nat) : Kept := digits.foldl (add 1 0) k

/-- Takes in the digits after the point. -/
def addPart (k : Kept) (digits : List Nat) : Kept := digits.foldl (add 0 (-1)) { k with full := false }

end Kept

/-- The greatest power of ten in range. -/
def greatestPower : Nat := 308

/-- A power of ten, rounded. -/
def power (n : Nat) : Binary := (Binary.ofFraction? false (Nat.pow 10 n) 1).getD (.zero false)

/-- A number divided by a power of ten, in steps of the greatest power. -/
def divided (b : Binary) (n : Nat) : Binary :=
  if b.mantissa = 0 then b
  else if n ≤ greatestPower then (b.div? (power n)).getD b
  else divided ((b.div? (power greatestPower)).getD b) (n - greatestPower)
termination_by n
decreasing_by simp only [greatestPower] at *; omega

/-- A number multiplied with a power of ten, unless it is out of range. -/
def scaled? (b : Binary) (e : Int) : Option Binary :=
  if b.mantissa = 0 then some b
  else if e < 0 then some (divided b (-e).toNat)
  else if e.toNat ≤ greatestPower then b.mul? (power e.toNat)
  else none

/-- The number of digits that were kept. -/
def ofKept? (negative : Bool) (k : Kept) (e : Int) : Option Quantity :=
  (Binary.ofInt? k.value).bind fun b =>
    (scaled? b (k.scale + e)).map fun b => .real { b with negative := negative }

/-- The number that digits without a point and an exponent write. -/
def ofWhole? (negative : Bool) (k : Kept) : Option Quantity :=
  if k.full then ofKept? negative k 0
  else if !negative then some (.whole k.value)
  else if 0 < k.value ∧ k.value ≤ wordBound / 2 then some (.whole (-(k.value : Int)))
  else ofKept? negative k 0

/-- The leading decimal digits of a text, and the rest. -/
def digits (cs : List Char) : List Nat × List Char :=
  ((cs.takeWhile Char.isDigit).map fun c => c.toNat - '0'.toNat, cs.dropWhile Char.isDigit)

/-- An exponent with its mark, if there is one, and the rest; a mark without digits is refused. -/
def exponentAtStart? (cs : List Char) : Option (Option Int × List Char) :=
  let (mark, rest) := (cs.take 1, cs.drop 1)
  if mark = ['e'] ∨ mark = ['E'] then
    let sign := rest.take 1
    let (ds, rest) := digits (if sign = ['+'] ∨ sign = ['-'] then rest.drop 1 else rest)
    if ds = [] then none
    else
      let n : Nat := ds.foldl (fun n d => n * 10 + d) 0
      some (some (if sign = ['-'] then -(n : Int) else n), rest)
  else some (none, cs)

/-- A number at the start of a text, and the rest. A zero before the point stands alone, and a point is
followed by digits. -/
def atStart? (cs : List Char) : Option (Quantity × List Char) := do
  let negative := cs.head? == some '-'
  let (before, rest) := digits (if negative then cs.drop 1 else cs)
  if before = [] ∨ (before.head? = some 0 ∧ before.length ≠ 1) then none
  let hasPoint := rest.head? == some '.'
  let (after, rest) := if hasPoint then digits (rest.drop 1) else ([], rest)
  if hasPoint ∧ after = [] then none
  let (e?, rest) ← exponentAtStart? rest
  let k := Kept.none.addWhole before
  let q ← if ¬hasPoint ∧ e? = none then ofWhole? negative k
    else ofKept? negative (k.addPart after) (e?.getD 0)
  return (q, rest)

/-- The number that a whole text writes. -/
def ofText? (s : String) : Option Quantity :=
  match atStart? s.toList with
  | some (q, []) => some q
  | _ => none

end Quantity
end Bindery.Stencil
