import Bindery.Target.Naming
import Bindery.Text.LetterCase

/-! # Functions as methods of Java

A function is a method of the class of graphs: the first parameter that is a graph and only read is the
object, and a function without one is a static method. If any parameter is primary, only the primary
outputs are returned, and all others must be optional; otherwise all outputs are returned. A method cannot
return more than one. -/

namespace Bindery.Target.Java

/-- The type whose values are the objects of the class. -/
def selfType : String := "GRAPH"

/-- A name in camel case: the parts between underscores, all but the first with a capital letter. -/
def camelCase (name : String) : String :=
  match (Text.split '_' name).filter (· ≠ "") with
  | [] => ""
  | first :: rest => first ++ String.join (rest.map Text.capitalize)

/-- The type of Java that a type has, if it has one. -/
def typeText? (t : TypeInfo) : Option String := t.text? "JAVATYPE"

/-- The type of Java that a type must have. -/
def requireType (function : String) (t : TypeInfo) : Except Error String :=
  match typeText? t with
  | some s => .ok s
  | none => .error (.unsupportedConvention function s!"type {t.name} has no JAVATYPE")

/-- A function as a method. -/
structure Method where
  name : String
  /-- The parameter that is the object; a static method has none. -/
  self? : Option TypedParam
  /-- The output that is returned. -/
  returned? : Option TypedParam
  /-- The type of the result; a method without one returns nothing. -/
  returnType? : Option String
  /-- The parameters with their types, in signature order. -/
  arguments : List (String × TypedParam)
deriving DecidableEq, Inhabited

namespace Method

/-- Whether an output is returned. -/
def isReturned (s : Signature) (p : TypedParam) : Bool :=
  p.param.primary || !s.params.any fun q => q.param.primary

/-- The outputs that are returned; fails at the first other one that is not optional. -/
def returnedAmong (s : Signature) : List TypedParam → Except Error (List TypedParam)
  | [] => .ok []
  | p :: ps =>
    if isReturned s p then (returnedAmong s ps).map (p :: ·)
    else if p.param.optional then returnedAmong s ps
    else .error (.unsupportedConvention s.name s!"output '{p.name}' is neither returned nor optional")

/-- The output that is returned, if one is. -/
def returnedOutput? (s : Signature) : Except Error (Option TypedParam) := do
  match ← returnedAmong s s.orderedOutputs with
  | [] => return none
  | [p] => return some p
  | ps => throw (.unsupportedOutputs s.name ps.length)

/-- The parameter that is the object. -/
def selfAmong? (s : Signature) : Option TypedParam :=
  s.ordered.find? fun p => p.reads && !p.writes && p.param.type == selfType

/-- The parameters that the method takes. -/
def taken (s : Signature) : List TypedParam :=
  s.orderedInputs.filter fun p => !(selfAmong? s).any fun self => self.name == p.name

/-- The name of the method before its first letter is made a capital or not. -/
def baseName (f : Function) : String := (f.text? "NAME-JAVA").getD (camelCase (shortName f.name))

/-- The type of the result, if there is one: that of the output, or that of what the function returns. -/
def resultType? (s : Signature) : Option TypedParam → Except Error (Option String)
  | some p => (requireType s.name p.type).map some
  | none => .ok (typeText? s.returnType)

/-- The method that a function is. -/
def ofSignature (s : Signature) : Except Error Method := do
  let returned? ← returnedOutput? s
  let arguments ← (taken s).mapM fun p => (requireType s.name p.type).map fun t => (t, p)
  let returnType? ← resultType? s returned?
  let self? := selfAmong? s
  let name := if self?.isSome then baseName s.function else Text.capitalize (baseName s.function)
  return ⟨name, self?, returned?, returnType?, arguments⟩

/-- Whether the method is static. -/
def isStatic (m : Method) : Bool := m.self?.isNone

/-- The type of the result in a signature. -/
def returnText (m : Method) : String := m.returnType?.getD "void"

/-- The parameters in a signature. -/
def argumentTexts (m : Method) : List String := m.arguments.map fun (t, p) => s!"{t} {camelCase p.name}"

end Method
end Bindery.Target.Java
