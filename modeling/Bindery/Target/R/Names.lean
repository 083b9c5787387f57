import Bindery.Target.Naming

/-! # Names in R

In R the parts of a name are separated by dots. -/

namespace Bindery.Target.R
open Template (Naming)

/-- A name with dots between its parts. -/
def dotted (name : String) : String := Text.replaceChar '_' '.' name

/-- The name of a function in R: its attribute `NAME-R`, or its own name without the first letter and with
dots. A name whose first letter is not ASCII gives no name. -/
def functionName (f : Function) : String :=
  (f.text? "NAME-R").getD <|
    match f.name.toList with
    | [] => ""
    | c :: rest => if c.toNat < 0x80 then dotted (String.ofList rest) else ""

/-- The names of parameters in R. -/
def naming : Naming := ⟨dotted, dotted⟩

/-- The names of parameters in the C code behind R. -/
def glueNaming : Naming := ⟨cVariable, id⟩

end Bindery.Target.R
