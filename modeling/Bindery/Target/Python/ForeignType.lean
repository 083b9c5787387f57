import Bindery.Signature

/-! # Types of C in Python

How a type of C is spelled where Python loads a library: without `const`, scalars with a `c_` in front, and a
`POINTER(...)` for each asterisk. Pointers to `char` and `void` have spellings of their own. -/

namespace Bindery.Target.Python

/-- The scalars that are spelled with a `c_` in front. -/
def scalars : List String := ["char", "int", "float", "double", "size_t", "ssize_t", "bool", "void"]

/-- Drops the qualifiers at the beginning of a type. -/
def dropConst : List Char → List Char
  | 'c' :: 'o' :: 'n' :: 's' :: 't' :: ' ' :: rest => dropConst (rest.dropWhile Text.isBlank)
  | cs => cs
termination_by cs => cs.length
decreasing_by
  have := (List.dropWhile_sublist (l := rest) Text.isBlank).length_le
  simp only [List.length_cons]
  omega

/-- An asterisk, or a blank around one. -/
def isPointerChar (c : Char) : Bool := c == '*' || Text.isBlank c

/-- How a type without pointers is spelled. -/
def spellBase (base : String) : String := if base ∈ scalars then "c_" ++ base else base

/-- The bases of which a pointer has a spelling of its own. -/
def pointedBases : List String := ["c_void", "c_char", "c_wchar"]

/-- A spelling behind a number of pointers. -/
def wrapPointers (spelling : String) : Nat → String
  | 0 => spelling
  | n + 1 => "POINTER(" ++ wrapPointers spelling n ++ ")"

/-- How a base behind a number of pointers is spelled. -/
def spellPointers (base : String) : Nat → String
  | 0 => if base = "c_void" then "None" else base
  | n + 1 => if base ∈ pointedBases then wrapPointers (base ++ "_p") n else wrapPointers base (n + 1)

/-- The base of a type of C and the number of pointers to it. -/
def splitPointers (cType : String) : String × Nat :=
  let cs := dropConst (Text.trimChars cType.toList)
  let stars := (cs.reverse.takeWhile isPointerChar).count '*'
  (String.ofList (Text.dropEndWhile isPointerChar cs), stars)

/-- How a type of C is spelled. -/
def foreignType (cType : String) : String :=
  let (base, pointers) := splitPointers cType
  spellPointers (spellBase base) pointers

/-- The failure of a function that Python cannot call. -/
def unsupported (function reason : String) : Error := .unsupportedConvention function reason

/-- The type of C of an argument of the call; none if the parameter is left out. It is a pointer if the
template of the call takes an address or the type is passed by pointer. -/
def argumentCType? (function : String) (p : TypedParam) : Except Error (Option String) :=
  let call := (p.template? .call).getD "%C%"
  if call = "" then .ok none
  else
    match p.cType? with
    | none =>
      .error (unsupported function s!"type {p.type.name} has no CTYPE for mode {p.param.mode.keyword}")
    | some cType =>
      if cType = "" then .ok none
      else if (call.toList.dropWhile Text.isBlank).head? = some '&' ∨ p.type.isByRef = true then
        .ok (some (cType ++ "*"))
      else .ok (some cType)

end Bindery.Target.Python
