import Bindery.Target.Basic
import Bindery.Target.R.Names

/-! # Exports of R

The target `RNamespace` writes the line that exports a function from a package of R. -/

namespace Bindery.Target.R.Namespace

/-- The line that exports a function. -/
def render (f : Function) : String := s!"export({functionName f})\n"

/-- The target. -/
def target : Target Unit where
  name := "RNamespace"
  comment text := s!"# ERROR: {text}\n"
  render function := do
    return render (← Gen.ofExcept ((← Gen.catalog).requireFunction function))

end Bindery.Target.R.Namespace
