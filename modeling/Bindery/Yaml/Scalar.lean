import Bindery.Decimal.Digits
import Bindery.Yaml.Value

/-! # What a plain scalar stands for

A scalar without quotes is null, a truth value, a number or itself. Integers may be written to base ten,
sixteen, eight or two; those that do not fit in 64 bits are refused as long as they fit in 128, and read as
fractions otherwise. Digits after a leading zero are no number. -/

namespace Bindery.Yaml

open Decimal (natural? fraction?)

/-- Digits of base ten, of which the first is a zero, and more than one of them. -/
def hasLeadingZero (cs : List Char) : Bool :=
  let ds := match cs with
    | '-' :: ds | '+' :: ds => ds
    | ds => ds
  match ds with
  | '0' :: rest@(_ :: _) => rest.all Char.isDigit
  | _ => false

/-- The number that digits after a base indicator write, or digits of base ten. -/
def magnitude? (cs : List Char) : Option Nat :=
  match cs with
  | '0' :: 'x' :: ds => natural? 16 ds
  | '0' :: 'o' :: ds => natural? 8 ds
  | '0' :: 'b' :: ds => natural? 2 ds
  | _ => if hasLeadingZero cs then none else natural? 10 cs

/-- The integer that a scalar writes, of any size. -/
def integer? (cs : List Char) : Option Int :=
  match cs with
  | '+' :: ds => (magnitude? ds).map Int.ofNat
  | '-' :: ds => (magnitude? ds).map fun n => -(n : Int)
  | ds => (magnitude? ds).map Int.ofNat

/-- The number that a scalar writes that is not an integer. -/
def real? (cs : List Char) : Option Number :=
  let unsigned := match cs with
    | '+' :: ds => ds
    | ds => ds
  let text := String.ofList unsigned
  if [".inf", ".Inf", ".INF"].contains text then some (.infinite false)
  else if ["-.inf", "-.Inf", "-.INF"].contains (String.ofList cs) then some (.infinite true)
  else if [".nan", ".NaN", ".NAN"].contains (String.ofList cs) then some .notANumber
  else
    match cs with
    | '+' :: '+' :: _ | '+' :: '-' :: _ => none
    | '-' :: ds => (fraction? true ds).map .binary
    | _ => (fraction? false unsigned).map .binary

/-- The texts of null. -/
def isNull (s : String) : Bool := ["null", "Null", "NULL", "~"].contains s

/-- The texts of the truth values. -/
def bool? (s : String) : Option Bool :=
  if ["true", "True", "TRUE"].contains s then some true
  else if ["false", "False", "FALSE"].contains s then some false
  else none

/-- What an integer stands for: nothing, if it is too large for 64 bits but not for 128; a fraction, if it
is larger still. -/
inductive IntegerReading where
  | none
  | fits (n : Int)
  | tooLarge

/-- How a scalar is read as an integer. -/
def readInteger (cs : List Char) : IntegerReading :=
  match integer? cs with
  | .none => .none
  | some n =>
    if -Int.pow 2 63 ≤ n ∧ n < Int.pow 2 64 then .fits n
    else if -Int.pow 2 127 ≤ n ∧ n < Int.pow 2 128 then .tooLarge
    else .none

/-- What a plain scalar stands for; nothing if its number is refused. -/
def Value.ofPlain? (s : String) : Option Value :=
  let cs := s.toList
  if s == "" || isNull s then some .null
  else
    match bool? s with
    | some b => some (.bool b)
    | none =>
      match readInteger cs with
      | .fits n => some (.number (.integer n))
      | .tooLarge => none
      | .none =>
        if hasLeadingZero cs then some (.string s)
        else
          match real? cs with
          | some n => some (.number n)
          | none => some (.string s)

end Bindery.Yaml
