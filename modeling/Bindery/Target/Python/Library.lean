import Bindery.Target.Basic
import Bindery.Target.Naming
import Bindery.Target.Python.ForeignType

/-! # The library in Python

The target `PythonCTypes` declares the argument types and the result type of every function of the loaded
library. Enumerations and bit fields that the rendered functions use are made aliases of integers above the
declarations. A function that could not be rendered leaves no alias. -/

namespace Bindery.Target.Python.Library

/-- The spellings of enumerations and bit fields that have been used. -/
structure Aliases where
  enums : NameSet
  bitfields : NameSet
deriving DecidableEq, Inhabited

namespace Aliases

/-- No aliases. -/
def empty : Aliases := ⟨.empty, .empty⟩

/-- Takes in a type with its spelling. -/
def note (a : Aliases) (use : TypeInfo × String) : Aliases where
  enums := if use.1.isEnum then a.enums.insert use.2 else a.enums
  bitfields := if use.1.isBitfield then a.bitfields.insert use.2 else a.bitfields

/-- Takes in types with their spellings. -/
def noteAll (a : Aliases) (uses : List (TypeInfo × String)) : Aliases := uses.foldl note a

end Aliases

/-- How the type of what a function returns is spelled. -/
def resultType (s : Signature) : Except Error String :=
  let spelled := match s.returnType.text? "CTYPES_RETURN_TYPE" with
    | some t => some t
    | none => s.returnCType?.map foreignType
  match spelled.filter (· ≠ "") with
  | some t => .ok t
  | none =>
    .error (unsupported s.name s!"no ctypes return type known for abstract type {s.returnType.name}")

/-- The type of the argument that a parameter is, with its spelling. -/
def argumentType? (s : Signature) (p : TypedParam) : Except Error (Option (TypeInfo × String)) :=
  (argumentCType? s.name p).map fun cType => cType.map fun t => (p.type, foreignType t)

/-- The types of the arguments with their spellings, in the order of their declaration. -/
def argumentTypes (s : Signature) : Except Error (List (TypeInfo × String)) :=
  (s.params.mapM (argumentType? s)).map fun types => types.filterMap id

/-- The declaration of a function, and the types it uses with their spellings. -/
def render (s : Signature) : Except Error (String × List (TypeInfo × String)) := do
  let result ← resultType s
  let arguments ← argumentTypes s
  let spelled := Text.commaJoin (arguments.map (·.2))
  let text := s!"\n{s.name} = _lib.{s.name}\n" ++ s!"{s.name}.restype = {result}\n" ++
    s!"{s.name}.argtypes = [{spelled}]\n"
  return (text, (s.returnType, result) :: arguments)

/-- The lines that make names aliases; `kind` says of what. -/
def aliasLines (kind : String) (names : NameSet) : String :=
  if names.members = [] then ""
  else
    s!"# Set up aliases for all {kind} types\n\n" ++
      String.join (names.members.map fun name => s!"{name} = c_int\n") ++ "\n"

/-- What renders single functions. -/
def renderer : Renderer Aliases where
  name := "PythonCTypes"
  comment text := s!"\n# {oneLine text}\n"
  render function := do
    let s ← Gen.ofExcept (Signature.resolve (← Gen.catalog) function)
    let (text, uses) ← Gen.ofExcept (render s)
    Gen.modifyState fun a => a.noteAll uses
    return text

/-- The target. -/
def target : Target Aliases where
  toRenderer := renderer
  functions := do
    let body ← renderer.renderAll
    let aliases ← Gen.state
    return aliasLines "enum" aliases.enums ++ aliasLines "bitfield" aliases.bitfields ++
      "# Add argument and return types for functions imported from igraph\n" ++ body

end Bindery.Target.Python.Library
