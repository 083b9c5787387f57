import Bindery.Decimal.Binary

/-! # Numbers as digits

What digits write: a natural number to some base up to sixteen, or a fraction with a point and an exponent
to base ten. -/

namespace Bindery.Decimal

/-- The value of a digit to some base up to sixteen. -/
def digitOf? (base : Nat) (c : Char) : Option Nat :=
  let v := if '0' ≤ c ∧ c ≤ '9' then c.toNat - 48
    else if 'a' ≤ c ∧ c ≤ 'f' then c.toNat - 87
    else if 'A' ≤ c ∧ c ≤ 'F' then c.toNat - 55
    else 16
  if v < base then some v else none

/-- The number that digits write to some base. -/
def natural? (base : Nat) (cs : List Char) : Option Nat :=
  if cs.isEmpty then none else cs.foldlM (fun n c => (digitOf? base c).map (n * base + ·)) 0

/-- The exponent that digits after an exponent mark write. -/
def exponent? (cs : List Char) : Option Int :=
  match cs with
  | '-' :: ds => (natural? 10 ds).map fun n => -(n : Int)
  | '+' :: ds => (natural? 10 ds).map Int.ofNat
  | ds => (natural? 10 ds).map Int.ofNat

/-- The number nearest to what digits with a point and an exponent write, unless it is out of range. -/
def fraction? (negative : Bool) (cs : List Char) : Option Binary :=
  let body := cs.takeWhile fun c => c != 'e' && c != 'E'
  let after := cs.drop body.length
  let whole := body.takeWhile (· != '.')
  let part := (body.drop whole.length).drop 1
  let digits := whole ++ part
  match natural? 10 digits, if after.isEmpty then some 0 else exponent? (after.drop 1) with
  | some n, some e => ofDecimal? negative n digits.length (e - part.length)
  | _, _ => none

end Bindery.Decimal
