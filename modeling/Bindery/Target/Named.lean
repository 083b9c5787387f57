import Bindery.Stencil.Reader
import Bindery.Stencil.Render
import Bindery.Target.Check.Prototype
import Bindery.Target.Check.TypeUse
import Bindery.Target.Java.Class
import Bindery.Target.Java.Glue
import Bindery.Target.Python.Library
import Bindery.Target.Python.Wrapper
import Bindery.Target.R.Glue
import Bindery.Target.R.Namespace
import Bindery.Target.R.Wrapper
import Bindery.Target.Shell.Links
import Bindery.Target.Shell.Program

/-! # Targets by name

All targets with the names by which they are chosen, and all skeletons with theirs. -/

namespace Bindery

namespace Generator

/-- The names of all targets. -/
def names : List String :=
  ["RR", "RC", "RNamespace", "JavaJava", "JavaC", "PythonCTypes", "PythonCTypesTypedWrapper", "Shell",
    "ShellLn", "DebugListTypes", "DebugValidateFunctions"]

/-- Whether a target has a name. -/
def isKnown (name : String) : Bool := names.contains name

/-- The generator of a name. The documentation of functions, which only `RR` uses, is read from a folder
among files, if one is given. -/
def ofName? (files : Files) (docFolder? : Option String) : String → Option Generator
  | "RR" => some ⟨Option Docs, docFolder?.map Docs.unread, Target.R.Wrapper.target files⟩
  | "RC" => some (stateless Target.R.Glue.target)
  | "RNamespace" => some (stateless Target.R.Namespace.target)
  | "JavaJava" => some (stateless Target.Java.Class.target)
  | "JavaC" => some (stateless Target.Java.Glue.target)
  | "PythonCTypes" => some ⟨Target.Python.Library.Aliases, .empty, Target.Python.Library.target⟩
  | "PythonCTypesTypedWrapper" => some (stateless Target.Python.Wrapper.target)
  | "Shell" => some (stateless Target.Shell.Program.target)
  | "ShellLn" => some (stateless Target.Shell.Links.target)
  | "DebugListTypes" => some ⟨Tally, .empty, Target.Check.TypeUse.target⟩
  | "DebugValidateFunctions" => some ⟨List String, [], Target.Check.Prototype.target⟩
  | _ => none

/-- The generator of a name, which must be that of a target. -/
def ofName (files : Files) (docFolder? : Option String) (name : String) : Except Error Generator :=
  match ofName? files docFolder? name with
  | some g => .ok g
  | none => .error (.unknownTarget name)

end Generator

/-- The skeletons of the targets. -/
def Template.Skeleton.ofTargets : Entries Template.Skeleton :=
  [("rc/function", Target.R.Glue.skeleton), ("java/function", Target.Java.Glue.skeleton),
    ("shell/function", Target.Shell.Program.skeleton), ("validator/epilogue", Target.Check.Prototype.skeleton)]

namespace Stencil

/-- A part of a skeleton as an element. -/
def ofPart : Template.Part → Element
  | .fixed s => .text s
  | .hole name => .subject (.reference ⟨name, false, false, 0, [name]⟩)

/-- A skeleton as a stencil. -/
def ofSkeleton (s : Template.Skeleton) : Stencil := s.map ofPart

/-- The skeletons of the targets as stencils. -/
def ofTargets : Entries Stencil := Template.Skeleton.ofTargets.map fun (name, s) => (name, ofSkeleton s)

end Stencil
end Bindery
