import Bindery.Tally
import Bindery.Target.Basic

/-! # Uses of types

The target `DebugListTypes` counts how often the functions use each abstract type, for a parameter or for
what they return, and lists the types by name. The types need not be known. -/

namespace Bindery.Target.Check.TypeUse

/-- The types that a function uses, each as often as it is used. -/
def uses (f : Function) : Except Error (List String) :=
  f.params.map fun table => (Entries.values table).map Param.type ++ [f.returnType]

/-- The lines that list types with the number of their uses. -/
def listing (counts : Entries Nat) : String := String.join (counts.map fun (name, n) => s!"{name} {n}\n")

/-- What renders single functions; a function only adds to the uses. -/
def renderer : Renderer Tally where
  name := "DebugListTypes"
  comment text := s!"# {text}\n"
  render function := do
    let f ← Gen.ofExcept ((← Gen.catalog).requireFunction function)
    let used ← Gen.ofExcept (uses f)
    Gen.modifyState fun t => t.addAll used
    return ""

/-- The target. Its state counts the uses so far. -/
def target : Target Tally where
  toRenderer := renderer
  functions := do
    let body ← renderer.renderAll
    return body ++ listing (← Gen.state).counts

end Bindery.Target.Check.TypeUse
