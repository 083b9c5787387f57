import Bindery.Text.Digit

/-! # Templates and their placeholders

A placeholder is written `%T%` (the concrete type), `%C%` or `%I%` (the internal or the interface name of
the parameter), and `%C` or `%I`, a number and `%` (the same of a dependency, counted from 1). It is found
from left to right, and found placeholders do not overlap; every other percent sign is plain text. The
digits of a number may be of any script, but only ASCII digits make a number, and only one below `2 ^ 64`. -/

namespace Bindery.Template

/-- What a template leaves open. -/
inductive Placeholder where
  /-- The concrete type. -/
  | concreteType
  /-- The name in generated code. -/
  | internalName
  /-- The name that users see. -/
  | interfaceName
  /-- The name of the `n`-th dependency in generated code. -/
  | internalOf (n : Nat)
  /-- The name of the `n`-th dependency that users see. -/
  | interfaceOf (n : Nat)
deriving Repr, DecidableEq, Inhabited

/-- A placeholder as it is written. -/
def Placeholder.show : Placeholder → String
  | concreteType => "%T%"
  | internalName => "%C%"
  | interfaceName => "%I%"
  | internalOf n => s!"%C{n}%"
  | interfaceOf n => s!"%I{n}%"

/-- Numbers must be below this bound. -/
def numberBound : Nat := Nat.pow 2 64

/-- A text in the form of a placeholder: a letter and digits between percent signs. -/
structure Mark where
  letter : Char
  digits : List Char
deriving Repr, DecidableEq, Inhabited

namespace Mark

/-- A mark as it is written. -/
def chars (m : Mark) : List Char := '%' :: m.letter :: (m.digits ++ ['%'])

/-- The mark with which a text begins. -/
def atStart? : List Char → Option Mark
  | '%' :: 'T' :: '%' :: _ => some ⟨'T', []⟩
  | '%' :: letter :: rest =>
    if letter = 'C' ∨ letter = 'I' then
      match rest.dropWhile Text.isDecimal with
      | '%' :: _ => some ⟨letter, rest.takeWhile Text.isDecimal⟩
      | _ => none
    else none
  | _ => none

/-- The number that the digits write, if they write one in bounds. -/
def number? (digits : List Char) : Option Nat :=
  (Text.decimalValue? digits).bind fun n => if n < numberBound then some n else none

/-- The placeholder that a mark writes. -/
def placeholder? (m : Mark) : Option Placeholder :=
  if m.letter = 'T' then some .concreteType
  else if m.digits = [] then some (if m.letter = 'C' then .internalName else .interfaceName)
  else (number? m.digits).map fun n => if m.letter = 'C' then .internalOf n else .interfaceOf n

end Mark

/-- A piece of a template. -/
inductive Piece where
  /-- A character that stands for itself. -/
  | plain (c : Char)
  /-- A text in the form of a placeholder. -/
  | mark (m : Mark)
deriving Repr, DecidableEq, Inhabited

/-- A piece as it is written. -/
def Piece.chars : Piece → List Char
  | plain c => [c]
  | mark m => m.chars

/-- The pieces of a text of which the first `skip` characters have been taken. -/
def piecesFrom : (skip : Nat) → List Char → List Piece
  | _, [] => []
  | skip + 1, _ :: cs => piecesFrom skip cs
  | 0, c :: cs =>
    match Mark.atStart? (c :: cs) with
    | some m => .mark m :: piecesFrom (m.chars.length - 1) cs
    | none => .plain c :: piecesFrom 0 cs

/-- The pieces of a template. -/
def pieces (template : String) : List Piece := piecesFrom 0 template.toList

/-- The marks of a template, from left to right. -/
def marks (template : String) : List Mark :=
  (pieces template).filterMap fun
    | .mark m => some m
    | .plain _ => none

/-- The placeholders of a template, from left to right. -/
def placeholders (template : String) : List Placeholder := (marks template).filterMap Mark.placeholder?

/-- The placeholder that a text is as a whole. -/
def Placeholder.parse? (token : String) : Option Placeholder :=
  match pieces token with
  | [.mark m] => m.placeholder?
  | _ => none

end Bindery.Template
