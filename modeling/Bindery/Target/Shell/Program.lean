import Bindery.Target.Basic
import Bindery.Target.Naming
import Bindery.Template.Skeleton

/-! # A program for the shell

The target `Shell` writes a program of C that offers every function as a command. A command has an option for
every parameter whose type can be converted from or to text; a parameter that is read and written has two. -/

namespace Bindery.Target.Shell.Program
open Template (Naming Skeleton Substitution)

/-- The fixed text of a command. -/
def skeleton : Skeleton := [
  .fixed "/*-------------------------------------------/\n/ ", .hole "banner",
  .fixed " /\n/-------------------------------------------*/\nvoid shell_", .hole "func",
  .fixed "_usage(char **argv) \x7b\n", .hole "usage",
  .fixed "\n  exit(1);\n\x7d\n\nint shell_", .hole "func", .fixed "(int argc, char **argv) \x7b\n\n",
  .hole "decl", .fixed "\n\n  int shell_seen[", .hole "nargs",
  .fixed "];\n  int shell_index=-1;\n  struct option shell_options[]= \x7b ", .hole "args",
  .fixed "\n                                   \x7b \"help\", no_argument, 0, ", .hole "nargs",
  .fixed (" \x7d,\n                                   \x7b 0, 0, 0, 0 \x7d\n" ++
    "                                 \x7d;\n\n" ++
    "  /* 0 - not seen, 1 - seen as argument, 2 - seen as default */\n  memset(shell_seen, 0, "),
  .hole "nargs", .fixed "*sizeof(int));\n", .hole "default",
  .fixed ("\n\n  /* Parse arguments and read input */\n" ++
    "  while (getopt_long(argc, argv, \"\", shell_options, &shell_index) != -1) \x7b\n\n" ++
    "    if (shell_index==-1) \x7b\n      exit(1);\n    \x7d\n\n" ++
    "    if (shell_seen[shell_index]==1) \x7b\n" ++
    "      fprintf(stderr, \"Error, `--%s' argument given twice.\\n\",\n" ++
    "              shell_options[shell_index].name);\n      exit(1);\n    \x7d\n" ++
    "    shell_seen[shell_index]=1;\n"),
  .hole "inconv",
  .fixed ("\n    shell_index=-1;\n  \x7d\n\n  /* Check that we have all arguments */\n" ++
    "  for (shell_index=0; shell_index<"),
  .hole "nargs",
  .fixed ("; shell_index++) \x7b\n    if (!shell_seen[shell_index]) \x7b\n" ++
    "      fprintf(stderr, \"Error, argument missing: `--%s'.\\n\",\n" ++
    "              shell_options[shell_index].name);\n      exit(1);\n    \x7d\n  \x7d\n\n" ++
    "  /* Do the operation */\n"),
  .hole "call", .fixed "\n\n  /* Write the result */\n", .hole "outconv",
  .fixed "\n\n  return 0;\n\x7d\n"]

/-- An option of a command. -/
structure Choice where
  /-- The name, without the dashes. -/
  name : String
  param : TypedParam
  /-- The direction in which the parameter is converted. -/
  mode : Mode
deriving DecidableEq, Inhabited

/-- Whether a type says anything of conversions. -/
def converts (t : TypeInfo) : Bool := (t.attr? Facet.inConv.key).isSome || (t.attr? Facet.outConv.key).isSome

/-- The options of a parameter. -/
def choicesOf (p : TypedParam) : List Choice :=
  if converts p.type then
    match p.param.mode with
    | .both => [⟨p.name, p, .input⟩, ⟨p.name ++ "-out", p, .output⟩]
    | mode => [⟨p.name, p, mode⟩]
  else []

/-- The options of a command. -/
def choices (s : Signature) : List Choice := s.params.flatMap choicesOf

/-- The line that shows how a command is used. -/
def usageLine (cs : List Choice) : String :=
  let options := Text.joinWith " " (cs.map fun c => s!"--{c.name}=<{c.name}>")
  s!"  printf(\"%s {options}\\n\", basename(argv[0]));"

/-- The entries of the table of options. -/
def optionEntries (cs : List Choice) : List String :=
  cs.mapIdx fun i c => s!"\x7b \"{c.name}\", required_argument, 0, {i} \x7d,"

/-- The entries of the table of options, one below the other. -/
def optionTable (cs : List Choice) : String :=
  Text.joinWith ("\n" ++ String.ofList (List.replicate 35 ' ')) (optionEntries cs)

/-! ### Declarations -/

/-- The declaration of a parameter without its default; empty if it has none. -/
def declaration (s : Signature) (p : TypedParam) : Except Error String :=
  match p.template? .decl with
  | some template => s.fill .declared p template
  | none => .ok ((p.cType?.map fun cType => s!"{cType} {p.name}").getD "")

/-- The line that declares a parameter, with its default. -/
def declarationLine? (s : Signature) (p : TypedParam) : Except Error (Option String) :=
  (declaration s p).map fun decl =>
    if decl = "" then none
    else
      let default := (p.param.default.map fun d => "=" ++ p.type.translateDefault d).getD ""
      let decl := String.ofList (Text.dropEndWhile (· == ';') decl.toList)
      some s!"{decl}{default};"

/-- The values of the placeholders in templates of what the function returns. -/
def returnValues (s : Signature) : Substitution := .plain s.name "shell_result" s.returnType.name

/-- The line that declares what the function returns, if it is declared. -/
def returnDeclaration (s : Signature) : Except Error (List String) :=
  match s.returnTemplate? .decl, s.returnCType? with
  | some template, _ => if template = "" then .ok [] else ((returnValues s).fill template).map ([·])
  | none, some cType => .ok [s!"{cType} shell_result;"]
  | none, none => .ok []

/-- The line that declares where the returned value is written, unless it is an error code. -/
def returnTarget (s : Signature) : List String :=
  if s.returnType.name = Function.defaultReturnType then [] else ["char *shell_arg_shell_result=\"-\";"]

/-- The declarations. -/
def declarations (s : Signature) : Except Error (List String) := do
  let own ← s.params.mapM (declarationLine? s)
  let targets := (s.params.filter TypedParam.writes).map fun p => s!"char* shell_arg_{p.name}=0;"
  return own.filterMap id ++ targets ++ (← returnDeclaration s) ++ returnTarget s

/-! ### The body -/

/-- The lines that mark the options with a default as seen. -/
def defaultLines (s : Signature) (cs : List Choice) : List String :=
  (s.params.filter fun p => p.param.default.isSome).filterMap fun p =>
    (cs.findIdx? fun c => c.name == p.name).map fun i => s!"shell_seen[{i}] = 2;"

/-- What is done with the text of an option. -/
def conversion (s : Signature) (c : Choice) : Except Error String :=
  match c.param.type.template? .inConv c.mode with
  | some template => s.fill .declared c.param template
  | none => .ok ""

/-- The case of the `i`-th option, whose conversion is given. -/
def caseText (i : Nat) (name conversion : String) : String :=
  s!"    case {i}: /* {name} */\n      {conversion}\n      break;"

/-- The text that reads the options. -/
def inputText (s : Signature) (cs : List Choice) : Except Error String := do
  let conversions ← cs.mapM (conversion s)
  let cases := (cs.zip conversions).mapIdx fun i (c, conversion) => caseText i c.name conversion
  return "\n    switch (shell_index) \x7b\n" ++ Text.joinWith "\n" cases ++
    s!"\n    case {cs.length}:\n      shell_{s.name}_usage(argv);\n" ++
    "      break;\n    default:\n      break;\n    \x7d\n"

/-- The arguments of the call, in the order of their declaration. -/
def callArguments (s : Signature) : Except Error (List String) :=
  s.params.mapM fun p => s.fill .declared p ((p.template? .call).getD "%C%")

/-- The call. -/
def call (s : Signature) : Except Error String :=
  (callArguments s).map fun arguments => s!"shell_result = {s.name}({Text.commaJoin arguments});"

/-- The conversion of what the function returns, if its type has one. -/
def returnConversion (s : Signature) : Except Error (List String) :=
  match s.returnTemplate? .outConv with
  | none => .ok []
  | some template => if template = "" then .ok [] else ((returnValues s).fill template).map ([·])

/-- The conversions of the outputs. -/
def outputConversions (s : Signature) : Except Error (List String) := do
  return (← s.facets .outConv .declared s.params) ++ (← returnConversion s)

/-- The command of a function. -/
def render (s : Signature) : Except Error String := do
  let cs := choices s
  let declarations ← declarations s
  let input ← inputText s cs
  let call ← call s
  let outputs ← outputConversions s
  skeleton.fill [("func", s.name), ("banner", bannerName s.name), ("usage", usageLine cs),
    ("decl", marginedLines declarations), ("nargs", toString cs.length), ("args", optionTable cs),
    ("default", marginedLines (defaultLines s cs)), ("inconv", input), ("call", "  " ++ call),
    ("outconv", marginedLines outputs)]

/-- What renders single functions. -/
def renderer : Renderer Unit where
  name := "Shell"
  comment text := s!"/* ERROR: {insideComment text} */\n"
  render function := do Gen.ofExcept (render (← Gen.ofExcept (Signature.resolve (← Gen.catalog) function)))

/-- The prototype of a command. -/
def prototype (name : String) : String := s!"int shell_{name}(int argc, char **argv);\n"

/-- The branch that runs a command. -/
def branch (name : String) : String :=
  s!"if (!strcasecmp(base, \"{name}\")) \x7b\n    return shell_{name}(argc, argv);\n  \x7d else "

/-- What stands before the commands: their prototypes, and the function that runs the one the program is
called by. -/
def dispatcher (names : List String) : String :=
  "\n/* Function prototypes first */\n\n" ++ String.join (names.map prototype) ++
    "\n/* The main function */\n\nint main(int argc, char **argv) \x7b\n\n" ++
    "  const char *base=basename(argv[0]);\n\n  " ++ String.join (names.map branch) ++
    "\x7b\n    printf(\"Unknown function, exiting\\n\");\n" ++
    "  \x7d\n\n  shell_igraph_usage(argc, argv);\n\n  return 0;\n\x7d\n" ++
    "\n/* The functions themselves at last */\n"

/-- The target. -/
def target : Target Unit where
  toRenderer := renderer
  functions := do
    let names ← Gen.generatable
    return dispatcher names ++ (← renderer.renderEach names)

end Bindery.Target.Shell.Program
