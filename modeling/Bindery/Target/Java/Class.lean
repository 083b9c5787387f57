import Bindery.Target.Basic
import Bindery.Target.Java.Method

/-! # The class of Java

The target `JavaJava` declares every function as a native method. Its inputs are sources of Java, in which a
marker stands for the declarations of all functions. -/

namespace Bindery.Target.Java.Class

/-- The declaration of a method. -/
def declaration (m : Method) : String :=
  let modifiers := if m.isStatic then "public static native" else "public native"
  s!"    {modifiers} {m.returnText} {m.name}({Text.commaJoin m.argumentTexts});\n"

/-- The declaration of a function. -/
def render (s : Signature) : Except Error String := (Method.ofSignature s).map declaration

/-- What renders single functions. -/
def renderer : Renderer Unit where
  name := "JavaJava"
  comment text := s!"    // {oneLine text}\n"
  render function := do Gen.ofExcept (render (← Gen.ofExcept (Signature.resolve (← Gen.catalog) function)))

/-- What renders each block. -/
def blocks : Registry (Gen Unit String) := Registry.empty.register .functions renderer.renderAll

/-- The target. -/
def target : Target Unit where
  toRenderer := renderer
  composition := .blocks
  block name := do (← Gen.ofExcept (blocks.handler name))

end Bindery.Target.Java.Class
