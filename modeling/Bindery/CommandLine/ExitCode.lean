/-! # Exit codes

Every kind of failure of a run has a code of its own, by which whoever started the run can tell it. -/

namespace Bindery

/-- The code with which a run ends. -/
structure ExitCode where
  value : Int
deriving Repr, DecidableEq, Inhabited

namespace ExitCode

/-- Everything has succeeded. -/
def success : ExitCode := ⟨0⟩

/-- A job has failed. -/
def failure : ExitCode := ⟨1⟩

/-- The configuration is refused. -/
def invalidInput : ExitCode := ⟨2⟩

/-- Some functions could not be generated, and the configuration makes this a failure. -/
def diagnostics : ExitCode := ⟨3⟩

/-- There are not as many destinations as targets. -/
def countMismatch : ExitCode := ⟨4⟩

/-- A file cannot be read. -/
def unreadableFile : ExitCode := ⟨5⟩

/-- No target has a given name. -/
def unknownTarget : ExitCode := ⟨6⟩

/-- Whether everything has succeeded. -/
def isSuccess (c : ExitCode) : Bool := c.value == 0

/-- The names of the codes that have one. -/
def named : List (ExitCode × String) :=
  [(success, "SUCCESS"), (failure, "ERROR"), (invalidInput, "INVALID_INPUT"), (diagnostics, "DIAGNOSTICS"),
    (countMismatch, "COUNT_MISMATCH"), (unreadableFile, "UNREADABLE_FILE"),
    (unknownTarget, "UNKNOWN_LANGUAGE")]

/-- The name of a code. -/
def name? (c : ExitCode) : Option String := (named.find? (·.1 = c)).map (·.2)

end ExitCode
end Bindery
