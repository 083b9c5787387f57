import Bindery.Target.Basic
import Bindery.Target.Naming
import Bindery.Target.Python.ForeignType

/-! # Functions of Python

The target `PythonCTypesTypedWrapper` writes a function of Python with type annotations around every
function of the loaded library. It takes the inputs in signature order and returns what the library returns,
unless that is an error code or nothing, followed by the parameters that are only written. -/

namespace Bindery.Target.Python.Wrapper
open Template (Naming)

/-- The keywords that cannot name a parameter as they are. -/
def keywords : List String := ["from", "in", "lambda"]

/-- The name of a parameter in Python. -/
def paramName (name : String) : String := if name ∈ keywords then name ++ "_" else name

/-- The names of parameters: a variable that is passed to the library, and the name in Python. -/
def naming : Naming := ⟨cVariable, paramName⟩

/-- The type of Python that a type must have. -/
def requireType (function : String) (t : TypeInfo) : Except Error String :=
  match t.text? "PY_TYPE" with
  | some s => .ok s
  | none => .error (unsupported function s!"no Python type known for type {t.name}")

/-- The name of the function in Python. -/
def functionName (f : Function) : String := (f.text? "NAME").getD (shortName f.name)

/-- The parameters in a signature; `defaulted` says whether one with a default came before, after which none
may lack one. -/
def parameterTexts (s : Signature) (defaulted : Bool) : List TypedParam → Except Error (List String)
  | [] => .ok []
  | p :: ps => do
    let type ← requireType s.name p.type
    let annotation := s!"{paramName p.name}: {type}"
    match p.param.default with
    | some d =>
      return s!"{annotation} = {p.type.translateDefault d}" :: (← parameterTexts s true ps)
    | none =>
      if defaulted then
        throw (unsupported s.name s!"a default argument precedes non-default argument {p.name}")
      else return annotation :: (← parameterTexts s false ps)

/-- The parameters in the signature. -/
def signatureTexts (s : Signature) : Except Error (List String) := parameterTexts s false s.orderedInputs

/-- The template that prepares the argument of a parameter; an empty one prepares nothing. -/
def inputTemplate (p : TypedParam) : String :=
  (p.template? .inConv).getD (if p.reads then "%C% = %I%" else "")

/-- The line that prepares the argument of a parameter, if one is needed; a parameter that is not read must
have one. -/
def inputLine? (s : Signature) (p : TypedParam) : Except Error (Option String) :=
  let template := inputTemplate p
  if template ≠ "" then (s.fill naming p template).map some
  else if p.reads then .ok none
  else .error (unsupported s.name s!"cannot construct an instance of abstract type {p.type.name}")

/-- The lines that prepare the arguments. -/
def inputLines (s : Signature) : Except Error (List String) :=
  (s.params.mapM (inputLine? s)).map fun lines => lines.filterMap id

/-- The template that converts an output; an empty one converts nothing. -/
def outputTemplate (p : TypedParam) : String :=
  (p.template? .outConv).getD (if p.writes then "%I% = %C%.value" else "")

/-- The lines that convert the outputs. -/
def outputLines (s : Signature) : Except Error (List String) := s.fillAll naming outputTemplate s.params

/-- Whether what the library returns is part of the result. -/
def returnsValue (s : Signature) : Bool :=
  s.returnType.name != Function.defaultReturnType && s.returnType.name != "VOID"

/-- The parameters that are returned, in the order of their declaration. -/
def returnedParams (s : Signature) : List TypedParam := s.params.filter fun p => !p.reads

/-- The types of what is returned. -/
def returnedTypes (s : Signature) : List TypeInfo :=
  (if returnsValue s then [s.returnType] else []) ++ (returnedParams s).map TypedParam.type

/-- What is returned. -/
def returnedNames (s : Signature) : List String :=
  (if returnsValue s then ["c__result"] else []) ++ (returnedParams s).map fun p => paramName p.name

/-- The annotation of a result with the given types. -/
def resultAnnotation : List String → String
  | [] => "None"
  | [t] => t
  | ts => s!"Tuple[{Text.commaJoin ts}]"

/-- The arguments of the call, in the order of their declaration. -/
def callArguments (s : Signature) : List String := s.params.map fun p => cVariable p.name

/-- Lines in the body of the function. -/
def body (lines : List String) : List String := Text.prefixed "    " lines

/-- The lines under a heading, between lines that stand in front and at the end; nothing, if there are none. -/
def part (front : List String) (heading : String) (lines tail : List String) : List String :=
  if lines = [] then [] else front ++ body (("# " ++ heading) :: lines) ++ tail

/-- The line of the call. -/
def callLine (s : Signature) : String :=
  let call := s!"{s.name}({Text.commaJoin (callArguments s)})"
  if returnsValue s then s!"c__result = {call}" else call

/-- The line that returns the result, if there is one. -/
def returnLines (s : Signature) : List String :=
  if returnedNames s = [] then [] else ["return " ++ Text.commaJoin (returnedNames s)]

/-- The function of Python. -/
def render (s : Signature) : Except Error String := do
  let _ ← s.params.mapM fun p => requireType s.name p.type
  let types ← (returnedTypes s).mapM (requireType s.name)
  let parameters ← signatureTexts s
  let inputs ← inputLines s
  let outputs ← outputLines s
  let head := s!"def {functionName s.function}({Text.commaJoin parameters}) -> {resultAnnotation types}:"
  let lines := ["", head] ++ body [s!"\"\"\"Type-annotated wrapper for ``{s.name}``.\"\"\""] ++
    part [] "Prepare input arguments" inputs [""] ++
    part [] "Call wrapped function" [callLine s] [] ++
    part [""] "Prepare output arguments" outputs [] ++
    part [""] "Construct return value" (returnLines s) []
  return "\n" ++ Text.joinWith "\n" lines ++ "\n"

/-- The target. -/
def target : Target Unit where
  name := "PythonCTypesTypedWrapper"
  comment text := s!"\n# {oneLine text}\n"
  render function := do Gen.ofExcept (render (← Gen.ofExcept (Signature.resolve (← Gen.catalog) function)))

end Bindery.Target.Python.Wrapper
