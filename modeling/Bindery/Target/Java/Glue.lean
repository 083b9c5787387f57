import Bindery.Target.Basic
import Bindery.Target.Java.Method
import Bindery.Template.Skeleton

/-! # C code behind Java

The target `JavaC` writes for every native method the function of C that implements it. An input is converted
into a variable of C, and an output into a variable of Java. If an output is returned, outputs are
converted only after a call without an error. -/

namespace Bindery.Target.Java.Glue
open Template (Naming Skeleton Substitution)

/-- The fixed text of a function. -/
def skeleton : Skeleton := [
  .fixed "\n/*-------------------------------------------/\n/ ", .hole "banner",
  .fixed " /\n/-------------------------------------------*/\n", .hole "header",
  .fixed " \x7b\n                                        /* Declarations */\n", .hole "decl",
  .fixed "\n\n  Java_igraph_before();\n                                        /* Convert input */\n",
  .hole "inconv", .fixed "\n                                        /* Call igraph */\n", .hole "call",
  .fixed "\n                                        /* Convert output */\n", .hole "outconv",
  .fixed "\n\n  Java_igraph_after();\n\n", .hole "ret", .fixed "\n\x7d\n"]

/-- The package of the class, with its name. -/
def classPath : String := "net_sf_igraph_Graph"

/-- The variable of C that holds what the function returns. -/
def callResult : String := "c__result"

/-- The variable of Java that an output is converted into. -/
def javaVariable (name : String) : String := "j_" ++ name

/-- The names of inputs: a variable of C, and the argument of the method. -/
def inputNaming : Naming := ⟨cVariable, camelCase⟩

/-- The names of outputs: a variable of C, and the variable of Java that it is converted into. -/
def outputNaming : Naming := ⟨cVariable, javaVariable⟩

/-- The head of the function. -/
def header (m : Method) : String :=
  let receiver := match m.self? with
    | some p => s!"jobject {camelCase p.name}"
    | none => "jclass cls"
  let arguments := Text.commaJoin ("JNIEnv *env" :: receiver :: m.argumentTexts)
  s!"JNIEXPORT {m.returnText} JNICALL Java_{classPath}_{m.name}({arguments})"

/-- The declaration of a variable of Java, if its type has one. -/
def javaDeclaration? (t : TypeInfo) (name : String) : Option String :=
  match t.text? "JAVADECL" with
  | some decl => some (Text.replace "%J%" name decl)
  | none => (typeText? t).map fun type => s!"{type} {name};"

/-- The declaration of the variable of C of a parameter. -/
def declaration (s : Signature) (p : TypedParam) : Except Error String :=
  (s.facet? .cDecl inputNaming p).map fun decl => decl.getD (p.declareC (cVariable p.name))

/-- The type of the result. -/
def resultType (s : Signature) (m : Method) : TypeInfo := (m.returned?.map TypedParam.type).getD s.returnType

/-- The declaration of the class, which a method needs that returns a graph. -/
def classDeclaration? (s : Signature) (m : Method) : Option String :=
  match m.self? with
  | some p =>
    if (resultType s m).name = selfType then
      some s!"jclass cls = (*env)->GetObjectClass(env, {camelCase p.name});"
    else none
  | none => none

/-- The declarations. -/
def declarations (s : Signature) (m : Method) : Except Error (List String) := do
  let own ← s.params.mapM (declaration s)
  let converted := (s.params.filter TypedParam.onlyWritten).filterMap fun p =>
    javaDeclaration? p.type (javaVariable p.name)
  let returned := s.returnType.declareC callResult .output
  let result := (javaDeclaration? (resultType s m) "result").toList
  let lines := own ++ converted ++ [returned] ++ result ++ (classDeclaration? s m).toList
  return lines.filter (· ≠ "")

/-- The arguments of the call. -/
def callArguments (s : Signature) : Except Error (List String) :=
  s.fillAll inputNaming (fun p => (p.template? .call).getD "%C%") s.params

/-- The call, unless an exception is pending. -/
def call (s : Signature) : Except Error String :=
  (callArguments s).map fun arguments =>
    "  if ((*env)->ExceptionCheck(env)) \x7b\n" ++
      s!"    {callResult} = IGRAPH_EINVAL;\n" ++
      "  \x7d else \x7b\n" ++
      s!"    {callResult} = {s.name}({Text.commaJoin arguments});\n" ++
      "  \x7d"

/-- The conversion of what the function returns, if its type has one. -/
def returnConversion (s : Signature) : Except Error (List String) :=
  match s.returnTemplate? .outConv with
  | none => .ok []
  | some template =>
    if template = "" then .ok []
    else
      let values := Substitution.plain s.name callResult s.returnType.name
      let concrete := s.returnCType?.getD values.concrete
      (Substitution.fill { values with interface := "result", concrete := concrete } template).map ([·])

/-- The variable in which a returned output stands. -/
def returnedVariable (p : TypedParam) : String :=
  if p.onlyWritten then javaVariable p.name else camelCase p.name

/-- The lines around the conversions of the outputs of a method that returns one of them. -/
def guardedLines (returned : TypedParam) (conversions : List String) : List String :=
  [s!"if ({callResult} == 0) \x7b"] ++
    margined (conversions ++ [s!"result = {returnedVariable returned};"]) ++
    ["\x7d else \x7b", "  result = 0;", "\x7d"]

/-- The conversions of the outputs. -/
def outputConversions (s : Signature) (m : Method) : Except Error (List String) := do
  let conversions ← s.facets .outConv outputNaming s.params
  match m.returned? with
  | some p => return guardedLines p conversions
  | none => return conversions ++ (← returnConversion s)

/-- How the function ends. -/
def ending (m : Method) : String := if m.returnType?.isSome then "  return result;" else "  return;"

/-- The function that implements a method. -/
def render (s : Signature) : Except Error String := do
  let m ← Method.ofSignature s
  let declarations ← declarations s m
  let inputs ← s.facets .inConv inputNaming s.params
  let call ← call s
  let outputs ← outputConversions s m
  skeleton.fill [("banner", bannerName s.name), ("header", header m),
    ("decl", marginedLines declarations), ("inconv", marginedLines inputs), ("call", call),
    ("outconv", marginedLines outputs), ("ret", ending m)]

/-- The target. -/
def target : Target Unit where
  name := "JavaC"
  comment text := s!"/* {insideComment text} */\n"
  render function := do Gen.ofExcept (render (← Gen.ofExcept (Signature.resolve (← Gen.catalog) function)))

end Bindery.Target.Java.Glue
