import Bindery.Template.Placeholder
import Bindery.TypeInfo

/-! # Filling templates

A substitution gives every placeholder of a parameter its value. A template is filled in one pass from left
to right: values are not looked at again. A placeholder without a value is a failure. -/

namespace Bindery.Template

/-- The rules that make names in a target of the declared name of a parameter. -/
structure Naming where
  /-- The name in generated code. -/
  internal : String → String
  /-- The name that users see. -/
  interface : String → String

/-- Names as they are declared. -/
def Naming.declared : Naming := ⟨id, id⟩

/-- The values of the placeholders of a parameter or of a result. -/
structure Substitution where
  /-- The function, the parameter and the abstract type, which failures name. -/
  function : String
  parameter : String
  typeName : String
  concrete : String
  internal : String
  interface : String
  /-- The internal and the interface name of each dependency. -/
  dependencies : List (String × String)
deriving Repr, DecidableEq, Inhabited

namespace Substitution

/-- The substitution of a value that is called `name` everywhere. -/
def plain (function name typeName : String) : Substitution :=
  ⟨function, name, typeName, typeName, name, name, []⟩

/-- The substitution of a parameter; `type?` is its type, if that is known. -/
def ofParam (function : String) (p : Param) (type? : Option TypeInfo) (naming : Naming) : Substitution where
  function := function
  parameter := p.name
  typeName := p.type
  concrete := (type?.bind fun t => t.cType? p.mode).getD p.type
  internal := naming.internal p.name
  interface := naming.interface p.name
  dependencies := p.dependencies.map fun d => (naming.internal d, naming.interface d)

/-- The names of the `n`-th dependency, counted from 1. -/
def dependency? (s : Substitution) : Nat → Option (String × String)
  | 0 => none
  | i + 1 => s.dependencies[i]?

/-- The value of a placeholder. -/
def value? (s : Substitution) : Placeholder → Option String
  | .concreteType => some s.concrete
  | .internalName => some s.internal
  | .interfaceName => some s.interface
  | .internalOf n => (s.dependency? n).map (·.1)
  | .interfaceOf n => (s.dependency? n).map (·.2)

/-- The failure of a mark without a value. -/
def unresolved (s : Substitution) (m : Mark) : Error :=
  .unresolvedPlaceholder s.function s.parameter s.typeName (String.ofList m.chars)

/-- What a piece becomes. -/
def fillPiece (s : Substitution) : Piece → Except Error (List Char)
  | .plain c => .ok [c]
  | .mark m =>
    match m.placeholder?.bind s.value? with
    | some v => .ok v.toList
    | none => .error (s.unresolved m)

/-- What pieces become. -/
def fillPieces (s : Substitution) : List Piece → Except Error (List Char)
  | [] => .ok []
  | p :: ps =>
    match s.fillPiece p with
    | .error e => .error e
    | .ok cs => (s.fillPieces ps).map (cs ++ ·)

/-- Fills a template. -/
def fill (s : Substitution) (template : String) : Except Error String :=
  (s.fillPieces (pieces template)).map String.ofList

end Substitution
end Bindery.Template
