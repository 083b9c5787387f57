import Bindery.Decimal.Binary

/-! # The shortest decimal that reads back

Of all decimals that are read as a given number, the one with the fewest digits is chosen, and of those the
nearest. A decimal is read as a number if it lies in the interval of what rounds to it: half a step to
either side, its ends included exactly if the mantissa is even. -/

namespace Bindery.Decimal

/-- The decimal `digits · 10^exponent`. -/
structure Scientific where
  digits : Nat
  exponent : Int
deriving Repr, DecidableEq, Inhabited

/-- The fractions that round to a positive number: `low / den` to `high / den` around `mid / den`. -/
structure Interval where
  low : Nat
  mid : Nat
  high : Nat
  den : Nat
  closed : Bool

/-- The interval of a number with positive mantissa. The step below a power of two is half as wide. -/
def interval (b : Binary) : Interval :=
  let m := b.mantissa
  let narrow := m = mantissaBound / 2 ∧ leastExponent < b.exponent
  let (unit, den) := scale 2 (b.exponent - 2) 1 1
  ⟨(if narrow then 4 * m - 1 else 4 * m - 2) * unit, 4 * m * unit, (4 * m + 2) * unit, den, m % 2 == 0⟩

/-- Whether the fraction `num / den` lies in an interval. -/
def Interval.holds (i : Interval) (num den : Nat) : Bool :=
  let n := num * i.den
  if i.closed then i.low * den ≤ n && n ≤ i.high * den else i.low * den < n && n < i.high * den

/-- The decimal with the given exponent of ten that lies in the interval and is nearest to its middle; of
two that are equally near, the even one. -/
def Interval.decimal? (i : Interval) (e : Int) : Option Scientific :=
  let (num, den) := scale 10 (-e) i.mid i.den
  let down := num / den
  let inside (n : Nat) : Bool :=
    let (a, d) := scale 10 e n 1
    0 < n && i.holds a d
  let r := 2 * (num % den)
  let first := if r < den ∨ (r = den ∧ down % 2 = 0) then down else down + 1
  let second := if first = down then down + 1 else down
  if inside first then some ⟨first, e⟩ else if inside second then some ⟨second, e⟩ else none

/-- The decimal exponent of a positive fraction: it is at least `10^e` and less than `10^(e+1)`. -/
def magnitude (num den : Nat) : Int :=
  if den ≤ num then ((Nat.toDigits 10 (num / den)).length : Int) - 1
  else -((Nat.toDigits 10 ((den + num - 1) / num - 1)).length : Int)

/-- The shortest decimal that reads back as a number with positive mantissa. -/
def shortest (b : Binary) : Scientific :=
  let i := interval b
  let top := magnitude i.high i.den
  match (List.range 19).findSome? fun (n : Nat) => i.decimal? (top - n) with
  | some d => d
  | none => ⟨0, 0⟩

/-- The digits of a decimal without the zeros at their end, and the exponent that makes up for them. -/
def Scientific.digitsAndExponent (d : Scientific) : List Char × Int :=
  let ds := Nat.toDigits 10 d.digits
  let kept := (ds.reverse.dropWhile (· == '0')).reverse
  (kept, d.exponent + (ds.length - kept.length : Nat))

/-- A number as text, with `plus` before a positive exponent. The point stands among the digits if its place
is above the fifth zero before them and at most sixteen digits come before it; otherwise the number is written
with an exponent. -/
def Binary.showSigned (plus : String) (b : Binary) : String :=
  let sign := if b.negative then "-" else ""
  if b.mantissa = 0 then sign ++ "0.0"
  else
    let (ds, e) := (shortest b).digitsAndExponent
    let point := ds.length + e
    let zeros (n : Int) : List Char := List.replicate n.toNat '0'
    let body : List Char :=
      if 0 ≤ e ∧ point ≤ 16 then ds ++ zeros e ++ ['.', '0']
      else if 0 < point ∧ point ≤ 16 then ds.take point.toNat ++ ['.'] ++ ds.drop point.toNat
      else if -5 < point ∧ point ≤ 0 then ['0', '.'] ++ zeros (-point) ++ ds
      else
        let mantissa := match ds with
          | d :: rest@(_ :: _) => d :: '.' :: rest
          | _ => ds
        let plus := if 0 < point - 1 then plus.toList else []
        mantissa ++ 'e' :: (plus ++ (toString (point - 1)).toList)
    sign ++ String.ofList body

/-- A number as text, with a bare positive exponent. -/
def Binary.show : Binary → String := Binary.showSigned ""

end Bindery.Decimal
