import Bindery.Target.Basic
import Bindery.Target.R.Names
import Bindery.Template.Skeleton

/-! # C code behind R

The target `RC` writes for every function the function of C that R calls. It declares a variable for every
parameter, converts the inputs, calls the library, converts the outputs and puts the result together. -/

namespace Bindery.Target.R.Glue
open Template (Part Skeleton Substitution)

/-- The fixed text of a function. -/
def skeleton : Skeleton := [
  .fixed "\n/*-------------------------------------------/\n/ ", .hole "banner",
  .fixed " /\n/-------------------------------------------*/\n", .hole "header",
  .fixed " \x7b\n                                        /* Declarations */\n", .hole "decl",
  .fixed "\n                                        /* Convert input */\n", .hole "inconv",
  .fixed "\n                                        /* Call igraph */\n", .hole "call",
  .fixed "\n                                        /* Convert output */\n", .hole "outconv",
  .fixed "\n\n  UNPROTECT(1);\n  return(result);\n\x7d\n"]

/-- The arguments of the function of C. -/
def arguments (s : Signature) : Except Error (List String) :=
  (s.fillAll glueNaming (fun p => (p.template? .header).getD "%I%") s.inputs).map (Text.prefixed "SEXP ")

/-- The head of the function of C. -/
def header (s : Signature) : Except Error String :=
  (arguments s).map fun arguments => s!"SEXP R_{s.name}({Text.commaJoin arguments})"

/-- The declaration of the variable of a parameter; empty if it has none. -/
def declaration (s : Signature) (p : TypedParam) : Except Error String :=
  (s.facet? .decl glueNaming p).map fun decl => decl.getD (p.declareC (cVariable p.name))

/-- What the placeholders stand for in templates of the returned value: it is kept in `c_result`, and
`result` is the object of R. -/
def returnValues (s : Signature) : Substitution :=
  { Substitution.plain s.name "result" s.returnType.name with
    internal := "c_result"
    concrete := s.returnCType?.getD s.returnType.name }

/-- The declaration of the returned value, if it has one. Without a template of its own it is declared
only where it is the result. -/
def returnDeclaration (s : Signature) : Except Error (List String) :=
  match s.returnTemplate? .decl, s.shape with
  | some decl, _ => if decl = "" then .ok [] else ((returnValues s).fill decl).map ([·])
  | none, .returned => .ok ([s.returnType.declareC "c_result" .output].filter (· ≠ ""))
  | none, _ => .ok []

/-- The declaration of the result. -/
def resultDeclaration : ResultShape → String
  | .aggregate _ => "SEXP result, names;"
  | _ => "SEXP result;"

/-- The declarations. -/
def declarations (s : Signature) : Except Error (List String) := do
  let own ← s.params.mapM (declaration s)
  let objects := (s.params.filter TypedParam.onlyWritten).map fun p => s!"SEXP {p.name};"
  let returned ← returnDeclaration s
  return own.filter (· ≠ "") ++ objects ++ returned ++ [resultDeclaration s.shape]

/-- The arguments of the call. -/
def callArguments (s : Signature) : Except Error (List String) :=
  s.fillAll glueNaming (fun p => (p.template? .call).getD "%C%") s.params

/-- The call. -/
def call (s : Signature) : Except Error String :=
  (callArguments s).map fun arguments =>
    let assignment := match s.shape with
      | .returned => "c_result="
      | _ => ""
    s!"{assignment}{s.name}({Text.commaJoin arguments});"

/-- The line that puts an output into its place in the result. -/
def elementLine (p : TypedParam) (i : Nat) : String := s!"SET_VECTOR_ELT(result, {i}, {p.name});"

/-- The line that names the place of an output in the result. -/
def nameLine (p : TypedParam) (i : Nat) : String :=
  s!"SET_STRING_ELT(names, {i}, CREATE_STRING_VECTOR(\"{p.param.displayName}\"));"

/-- The lines that make an aggregate around the conversions of its outputs. -/
def aggregateLines (outputs : List TypedParam) (conversions : List String) : List String :=
  let n := outputs.length
  [s!"PROTECT(result=NEW_LIST({n}));", s!"PROTECT(names=NEW_CHARACTER({n}));"] ++ conversions ++
    outputs.mapIdx (fun i p => elementLine p i) ++ outputs.mapIdx (fun i p => nameLine p i) ++
    ["SET_NAMES(result, names);", s!"UNPROTECT({n + 1});"]

/-- The conversions of the outputs, and what puts the result together. -/
def outputConversions (s : Signature) : Except Error (List String) := do
  let conversions ← s.facets .outConv glueNaming s.params
  match s.shape with
  | .returned =>
    match s.returnTemplate? .outConv with
    | none => return conversions
    | some template => return conversions ++ [← (returnValues s).fill template]
  | .single p => return conversions ++ [s!"result={p.name};"]
  | .aggregate ps => return aggregateLines ps conversions

/-- The function of C. -/
def render (s : Signature) : Except Error String := do
  let header ← header s
  let declarations ← declarations s
  let inputs ← s.facets .inConv glueNaming s.params
  let call ← call s
  let outputs ← outputConversions s
  skeleton.fill [("banner", bannerName s.name), ("header", header),
    ("decl", marginedLines declarations), ("inconv", marginedLines inputs), ("call", "  " ++ call),
    ("outconv", marginedLines outputs)]

/-- The target. -/
def target : Target Unit where
  name := "RC"
  comment text := s!"/* ERROR: {insideComment text} */\n"
  render function := do Gen.ofExcept (render (← Gen.ofExcept (Signature.resolve (← Gen.catalog) function)))

end Bindery.Target.R.Glue
