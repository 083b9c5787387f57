import Bindery.Target.Basic

/-! # Links for the shell

The target `ShellLn` writes the name of every function, for which a link to the program is then made. -/

namespace Bindery.Target.Shell.Links

/-- The target. -/
def target : Target Unit where
  name := "ShellLn"
  comment text := s!"# {text}\n"
  render function := pure (function ++ "\n")

end Bindery.Target.Shell.Links
