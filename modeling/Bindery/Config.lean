import Bindery.Error

/-! # Configuration of a run

A configuration is given as `key = value` lines. All settings have defaults, and other keys are refused. -/

namespace Bindery

/-- The settings of a run. -/
structure Config where
  /-- Whether a dependency on something that is no parameter is a failure. -/
  strict : Bool
  /-- Whether a function that could not be generated makes the run fail. -/
  failOnDiagnostics : Bool
  /-- The word of block markers. -/
  sigil : String
  /-- One level of indentation of generated text. -/
  indent : String
deriving Repr, DecidableEq, Inhabited

namespace Config

/-- The settings where none are given. -/
def default : Config := ⟨true, false, "STIMULUS", "    "⟩

/-- A character that may stand in a sigil. -/
def isSigilChar (c : Char) : Bool := c.isAlphanum || c == '_'

/-- Refuses settings that make no sense. -/
def validate (c : Config) : Except Error Unit :=
  if c.sigil = "" then .error (.config "block_sigil cannot be empty")
  else if !c.sigil.toList.all isSigilChar then
    .error (.config s!"block_sigil '{c.sigil}' may only contain ASCII letters, digits and '_'")
  else if !c.indent.toList.all (fun ch => ch == ' ' || ch == '\t') then
    .error (.config "indent may only contain spaces and tabs")
  else .ok ()

end Config
end Bindery
