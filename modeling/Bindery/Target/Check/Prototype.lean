import Bindery.Target.Naming
import Bindery.Target.Basic
import Bindery.Template.Skeleton

/-! # Checks of prototypes

The target `DebugValidateFunctions` writes a program of C++ that compiles only if every function has, in the
library, the prototype that its description says. -/

namespace Bindery.Target.Check.Prototype
open Template (Skeleton)

/-- The fixed text after the prototypes. -/
def skeleton : Skeleton := [
  .fixed "\nvoid main() \x7b\n", .hole "checks",
  .fixed "\n\n    printf(\"Everything OK!\");\n\x7d\n"]

/-- The fixed text before the prototypes. -/
def includes : String := "#include <igraph.h>\n\n#include <cstdio>\n#include <type_traits>\n\n"

/-- The declaration of a parameter. -/
def argument (types : Entries TypeInfo) (function : String) (p : Param) : Except Error String :=
  (Catalog.resolveType types function p.type).map fun t =>
    match t.cType? p.mode with
    | some cType => s!"{cType} {p.name}"
    | none => p.name

/-- The prototype of a function. -/
def render (types : Entries TypeInfo) (f : Function) : Except Error String := do
  let returnType ← Catalog.resolveType types f.name f.returnType
  let table ← f.params
  let arguments ← (Entries.values table).mapM (argument types f.name)
  let result := (returnType.cType? .output).getD returnType.name
  return s!"{result} generated_{f.name}({Text.commaJoin arguments});\n"

/-- The check of a prototype. -/
def check (name : String) : String :=
  "static_assert(\n    std::is_same<\n" ++ s!"        decltype({name}),\n" ++
    s!"        decltype(generated_{name})\n" ++ "    >::value,\n" ++
    s!"    \"{name} prototype mismatch\"\n);"

/-- The checks of prototypes. -/
def checks (names : List String) : String := Text.joinWith "\n" (names.map check)

/-- The target. Its state is the functions of which prototypes have been written. -/
def target : Target (List String) where
  name := "DebugValidateFunctions"
  comment text := s!"// {oneLine text}\n"
  render function := do
    let catalog ← Gen.catalog
    let f ← Gen.ofExcept (catalog.requireFunction function)
    let text ← Gen.ofExcept (render catalog.types f)
    Gen.modifyState (· ++ [function])
    return text
  preamble inputs := pure (includes ++ verbatim inputs)
  epilogue inputs := do
    let indent := (← Gen.session).config.indent
    let text ← Gen.ofExcept (skeleton.fill [("checks", indentLines indent (checks (← Gen.state)))])
    return text ++ verbatim inputs

end Bindery.Target.Check.Prototype
