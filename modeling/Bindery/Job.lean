import Bindery.Config.Reader
import Bindery.Target.Named

/-! # Jobs

A job generates the output of one target from files: sources of functions and types, and inputs. The output
is written at the end, after everything has succeeded. -/

namespace Bindery

/-- Where an output goes. -/
inductive Destination where
  | standard
  | file (path : String)
deriving Repr, DecidableEq, Inhabited

namespace Destination

/-- The text that stands for the standard output. -/
def standardText : String := "-"

/-- The destination that a text means. -/
def ofText (s : String) : Except Error Destination :=
  let path := Text.trim s
  if path = "" then .error (.invalidArgument "output destination cannot be empty")
  else if path = standardText then .ok standard
  else .ok (file path)

/-- The path of a destination that is a file. -/
def path? : Destination → Option String
  | standard => none
  | file path => some path

end Destination

/-- A destination as it is written. -/
def Destination.show : Destination → String
  | standard => standardText
  | file path => path

/-- The tree that the content of a file describes; `path` is its path. -/
def Content.tree (path : String) : Content → Except Error Attr.Tree
  | .text s => (Format.ofPath path).read path s
  | .bytes bs =>
    match Format.ofPath path with
    | .outline => Outline.readLines path (Outline.Line.ofBytes bs)
    | .yaml => .error (.io path Outline.notTextReason)

namespace Files

/-- The tree that a file describes. -/
def tree (files : Files) (path : String) : Except Error Attr.Tree := do (← files.read path).tree path

/-- The configuration that a file describes. -/
def config (files : Files) (path : String) : Except Error Config := do Config.ofText (← files.readText path)

/-- An input read from a file. -/
def input (files : Files) (path : String) : Except Error Input :=
  (files.readText path).map fun text => ⟨path, text⟩

/-- Inputs read from files. -/
def inputs (files : Files) (preamble epilogue : List String) : Except Error Inputs := do
  return ⟨← preamble.mapM files.input, ← epilogue.mapM files.input⟩

end Files

namespace Catalog

/-- Takes in what a file says of functions. -/
def loadFunctionFile (c : Catalog) (files : Files) (path : String) : Catalog × Except Error Unit :=
  match files.tree path with
  | .ok source => c.loadFunctions source
  | .error e => (c, .error e)

/-- Takes in what a file says of types. -/
def loadTypeFile (c : Catalog) (files : Files) (path : String) : Catalog × Except Error Unit :=
  match files.tree path with
  | .ok source => c.loadTypes source
  | .error e => (c, .error e)

end Catalog

/-- The files of a job. -/
structure Job where
  functionFiles : List String
  typeFiles : List String
  preamble : List String
  epilogue : List String
deriving Repr, DecidableEq, Inhabited

/-- What a job has generated. -/
structure Report where
  text : String
  diagnostics : List Diagnostic
deriving Repr, DecidableEq, Inhabited

namespace Job

/-- The result of a step, if it succeeded. -/
def settled (step : Catalog × Except Error Unit) : Except Error Catalog := step.2.map fun _ => step.1

/-- The catalog of the sources, in which every function has its parameters and their order. -/
def catalog (job : Job) (files : Files) (config : Config) : Except Error Catalog := do
  let c ← job.functionFiles.foldlM (fun c path => settled (c.loadFunctionFile files path)) (.ofConfig config)
  let c ← job.typeFiles.foldlM (fun c path => settled (c.loadTypeFile files path)) c
  c.validate
  return c

/-- Generates the output of a target. -/
def report (job : Job) (files : Files) (config : Config) (g : Generator) : Except Error Report := do
  let c ← job.catalog files config
  let inputs ← files.inputs job.preamble job.epilogue
  let (result, session) := g.generate (.start c g.target.name config) inputs
  return ⟨← result, session.diagnostics⟩

end Job

/-- Files and the text that has been written to the standard output. -/
structure World where
  files : Files
  standard : String
deriving Repr, DecidableEq, Inhabited

namespace World

/-- Writes an output. -/
def write (w : World) (text : String) : Destination → Except Error World
  | .standard => .ok { w with standard := w.standard ++ text }
  | .file path => (w.files.write path text).map fun files => { w with files := files }

end World

/-- Generates the output of a target and writes it; nothing is written unless all has succeeded. -/
def Job.run (job : Job) (w : World) (config : Config) (g : Generator) (destination : Destination) :
    Except Error (World × Report) := do
  let report ← job.report w.files config g
  return (← w.write report.text destination, report)

end Bindery
