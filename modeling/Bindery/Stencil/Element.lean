import Bindery.Stencil.Datum

/-! # Stencils

A stencil is text with tags. A tag shows a datum or the result of a helper, opens or closes a block that is
shown on a condition or several times, includes another stencil, or defines one. -/

namespace Bindery
namespace Stencil

/-- A way to a datum: from the whole of the data, from an enclosing scope or from the innermost one, through
fields and places. A reference to a loop variable starts with its name. -/
structure Reference where
  /-- As it is written. -/
  written : String
  /-- Whether the way starts at the whole of the data. -/
  fromRoot : Bool
  /-- Whether the way starts at a loop variable. -/
  isLoopVariable : Bool
  /-- How many scopes the way goes outwards. -/
  outward : Nat
  names : List String
deriving Repr, DecidableEq, Inhabited

mutual
/-- What a helper is given. -/
inductive Argument where
  | datum (d : Datum)
  | reference (r : Reference)
  | call (c : Call)
/-- A helper with what it is given. -/
inductive Call where
  | mk (name : String) (given : List Argument) (named : List (String × Argument))
end

deriving instance Repr, Inhabited for Argument
deriving instance Repr, Inhabited for Call

namespace Call

/-- The name of the helper. -/
def name : Call → String
  | mk n _ _ => n

/-- What the helper is given in order. -/
def given : Call → List Argument
  | mk _ g _ => g

/-- What the helper is given by name. -/
def named : Call → List (String × Argument)
  | mk _ _ n => n

end Call

/-- What names a stencil that is included, or a datum that is shown. -/
inductive Subject where
  /-- A name that stands for itself. -/
  | name (s : String)
  /-- A reference. -/
  | reference (r : Reference)
  /-- The result of a helper. -/
  | call (c : Call)
deriving Repr, Inhabited

/-- The names that a block gives to the datum of a turn, and to its place or name. -/
inductive Binders where
  | none
  | one (item : String)
  | two (item key : String)
deriving Repr, DecidableEq, Inhabited

/-- What indents the lines of an included stencil. -/
structure Margin where
  indent : String
  /-- Whether the first line is indented as well, since nothing else stands before the tag in its line. -/
  first : Bool
deriving Repr, DecidableEq, Inhabited

/-- No margin. -/
def Margin.none : Margin := ⟨"", false⟩

/-- A part of a stencil. -/
inductive Element where
  /-- Text that stands for itself. -/
  | text (s : String)
  /-- What is not shown. -/
  | comment
  /-- A datum, or a helper that is given nothing. -/
  | subject (s : Subject)
  /-- A helper with arguments. -/
  | call (c : Call)
  /-- A block, and what is shown in its place on the other condition. -/
  | block (c : Call) (binders : Binders) (body : List Element) (otherwise : Option (List Element))
  /-- A rule that does something with its body. -/
  | rule (c : Call) (body : Option (List Element))
  /-- Another stencil in this place, with a body that it may show. -/
  | inclusion (target : Subject) (given : List Argument) (named : List (String × Argument)) (margin : Margin)
    (body : Option (List Element))
deriving Repr, Inhabited

end Stencil

/-- Text with tags. -/
abbrev Stencil := List Stencil.Element

end Bindery
