import Bindery.CommandLine.Arguments
import Bindery.CommandLine.ExitCode

/-! # Runs

A run carries out what a command line asks for: the targets are generated one after the other, each from the
same files. Nothing is generated unless all arguments make sense, all files can be read and the
configuration is accepted. The first job that fails ends the run; what earlier jobs have written stays. -/

namespace Bindery

/-- How a run ends. -/
structure Outcome where
  code : ExitCode
  world : World
  /-- The messages, each of which is a line. -/
  messages : List String
deriving Repr, DecidableEq, Inhabited

namespace Arguments

/-- The files that must be readable, with what they are called, in the order in which they are tried. -/
def files (a : Arguments) : List (String × String) :=
  a.typeFiles.map ("type", ·) ++ a.functionFiles.map ("function", ·) ++ a.preamble.map ("input", ·) ++
    a.epilogue.map ("input", ·)

/-- The complaint about a folder of documentation, if there is one. -/
def folderFault? (a : Arguments) (files : Files) : Option (ExitCode × String) :=
  match a.docFolder? with
  | some folder =>
    if files.isFolder folder then .none
    else some (.unreadableFile, s!"cannot open docstring folder: {folder}")
  | .none => .none

/-- The complaint about files, if there is one. -/
def fileFault? (a : Arguments) (files : Files) : Option (ExitCode × String) :=
  match a.files.find? fun (_, path) => !files.isFile path with
  | some (kind, path) => some (.unreadableFile, s!"cannot open {kind} file: {path}")
  | .none => a.folderFault? files

/-- The complaint about the targets, if there is one. -/
def targetFault? (a : Arguments) : Option (ExitCode × String) :=
  if a.targets.length ≠ a.destinations.length then
    some (.countMismatch, "number of languages and output files must match")
  else
    (a.targets.find? fun name => !Generator.isKnown name).map fun name =>
      (.unknownTarget, s!"unknown language: {name}")

/-- The complaint that keeps a run from beginning, if there is one. -/
def fault? (a : Arguments) (files : Files) : Option (ExitCode × String) :=
  match a.targetFault? with
  | some fault => some fault
  | .none => a.fileFault? files

/-- The configuration. -/
def config (a : Arguments) (files : Files) : Except Error Config :=
  match a.config? with
  | some path => files.config path
  | .none => .ok .default

/-- Runs the job of one target. -/
def runOne (a : Arguments) (config : Config) (w : World) (pair : String × Destination) :
    Except Error (World × Report) :=
  match Generator.ofName w.files a.docFolder? pair.1 with
  | .ok g => a.job.run w config g pair.2
  | .error e => .error e

end Arguments

/-- What jobs have done so far. -/
structure Progress where
  world : World
  /-- How many functions could not be generated. -/
  diagnostics : Nat
  messages : List String
deriving Repr, DecidableEq, Inhabited

namespace Progress

/-- Takes in what a job has done. -/
def add (p : Progress) (target : String) (w : World) (report : Report) : Progress where
  world := w
  diagnostics := p.diagnostics + report.diagnostics.length
  messages := p.messages ++ report.diagnostics.map fun d => s!"Warning: {target}: {d.show}"

end Progress

namespace Arguments

/-- The message of a failure. -/
def complaint (text : String) : String := "Error: " ++ text

/-- Runs the jobs of targets up to the first that fails. -/
def runJobs (a : Arguments) (config : Config) (p : Progress) : List (String × Destination) → Outcome
  | [] =>
    if p.diagnostics > 0 ∧ config.failOnDiagnostics = true then
      ⟨.diagnostics, p.world,
        p.messages ++ [complaint s!"{p.diagnostics} function(s) could not be generated"]⟩
    else ⟨.success, p.world, p.messages⟩
  | pair :: rest =>
    match a.runOne config p.world pair with
    | .ok (w, report) => a.runJobs config (p.add pair.1 w report) rest
    | .error e => ⟨.failure, p.world, p.messages ++ [complaint e.message]⟩

/-- Carries out what a command line asks for. -/
def run (a : Arguments) (files : Files) : Outcome :=
  match a.fault? files with
  | some (code, text) => ⟨code, ⟨files, ""⟩, [complaint text]⟩
  | .none =>
    match a.config files with
    | .error e => ⟨.invalidInput, ⟨files, ""⟩, [complaint e.message]⟩
    | .ok config => a.runJobs config ⟨⟨files, ""⟩, 0, []⟩ a.pairs

end Arguments
end Bindery
