import Bindery.Docs
import Bindery.Target.Basic
import Bindery.Target.R.Names

/-! # Functions of R

The target `RR` writes a function of R for every function: it checks the arguments, calls the C code behind
R, converts the outputs and hands back the result, which may be given attributes and a class on the way. -/

namespace Bindery.Target.R.Wrapper
open Template (Substitution)

/-- The argument of a parameter in the signature, with its default; empty if it is left out. -/
def argument (s : Signature) (p : TypedParam) : Except Error String :=
  let header := (p.template? .header).getD "%I%"
  if header = "" then .ok ""
  else
    let default := match p.param.default with
      | some d => "=" ++ p.type.translateDefault d
      | none => ""
    s.fill naming p (header ++ default)

/-- The arguments in the signature. -/
def arguments (s : Signature) : Except Error (List String) := do
  return (← s.orderedInputs.mapM (argument s)).filter (· ≠ "")

/-- The arguments of the call, in the order of their declaration. -/
def callArguments (s : Signature) : Except Error (List String) :=
  s.fillAll naming (fun p => (p.template? .call).getD "%I%") s.inputs

/-- What an output is called while it is converted: the result, or its place in an aggregate. -/
def outputName (shape : ResultShape) (p : TypedParam) : String :=
  match shape with
  | .aggregate _ => "res$" ++ p.param.displayName
  | _ => "res"

/-- The conversion of an output, if its type has one. -/
def outputConversion? (s : Signature) (p : TypedParam) : Except Error (Option String) :=
  match p.template? .outConv with
  | none => .ok none
  | some template =>
    let values := s.substitution naming p
    (Substitution.fill { values with interface := outputName s.shape p } template).map some

/-- The conversion of what the function returns, if that is the result. -/
def returnConversion (s : Signature) : Except Error (List String) :=
  match s.shape, s.returnTemplate? .outConv with
  | .returned, some template =>
    if template = "" then .ok []
    else ((Substitution.plain s.name "res" s.returnType.name).fill template).map ([·])
  | _, _ => .ok []

/-- The conversions of the outputs. -/
def outputConversions (s : Signature) : Except Error (List String) := do
  let lines ← s.params.mapM (outputConversion? s)
  return (lines.filterMap id).filter (· ≠ "") ++ (← returnConversion s)

/-- The line that gives the result an attribute, from an item `name IS value`. -/
def attributeLine? (item : String) : Option String :=
  (Text.cutAt? " IS " item).map fun (name, value) =>
    let quoted := Text.replace "'" "\\'" (Text.trim value)
    s!"  res <- set.graph.attribute(res, '{Text.trim name}', '{quoted}')\n"

/-- The line that gives the result an attribute with the value of a parameter. -/
def paramAttributeLine (item : String) : String :=
  let name := dotted (Text.trim item)
  s!"  res <- set.graph.attribute(res, '{name}', {name})\n"

/-- The lines that the text of an attribute asks for. -/
def linesFor (f : Function) (key : String) (lines : String → List String) : List String :=
  ((f.text? key).map lines).getD []

/-- What is done with the result at the end. -/
def postprocessing (f : Function) : String :=
  String.join <|
    linesFor f "GATTR-R" (fun v => (Text.split ',' v).filterMap attributeLine?) ++
    linesFor f "GATTR-PARAM-R" (fun v => (Text.split ',' v).map paramAttributeLine) ++
    linesFor f "CLASS-R" (fun v => [s!"  class(res) <- \"{v}\"\n"]) ++
    linesFor f "PP-R" (fun v => [s!"  res <- {v}(res)\n"])

/-- The mark of a function that the interface exports. -/
def exportMark (f : Function) : String := if f.isInternal then "" else "#' @export\n"

/-- Lines with two spaces in front of each, each with its line end. -/
def block (lines : List String) : String := String.join ((margined lines).map (· ++ "\n"))

/-- The function of R, without its documentation. -/
def render (s : Signature) : Except Error String := do
  let arguments ← arguments s
  let checks ← s.facets .inConv naming s.params
  let call ← callArguments s
  let outputs ← outputConversions s
  return exportMark s.function ++
    s!"{functionName s.function} <- function({Text.commaJoin arguments}) \x7b\n" ++
    "  # Argument checks\n" ++ block checks ++ "\n" ++
    "  on.exit( .Call(C_R_igraph_finalizer) )\n" ++
    "  # Function call\n" ++
    s!"  res <- .Call(C_R_{s.name}, {Text.commaJoin call})\n" ++
    block outputs ++ postprocessing s.function ++ "  res\n\x7d\n\n"

/-- The documentation of a function as comments. -/
def documentation (files : Files) (function : String) : Gen (Option Docs) String := do
  match ← Gen.state with
  | none => return ""
  | some docs =>
    let (docs, result) := docs.text? files function
    Gen.modifyState fun _ => some docs
    return ((← Gen.ofExcept result).map Docs.comments).getD ""

/-- The target. Its state is the folder of documentation, if there is one among the files. -/
def target (files : Files) : Target (Option Docs) where
  name := "RR"
  comment text := s!"# ERROR: {text}\n\n"
  render function := do
    let s ← Gen.ofExcept (Signature.resolve (← Gen.catalog) function)
    let docs ← documentation files function
    return docs ++ (← Gen.ofExcept (render s))

end Bindery.Target.R.Wrapper
