import Bindery.CommandLine.Run

/-! # The program

The files that a command line names are read, the run is carried out on them, and what it has changed is
written. -/

namespace Bindery.Program

/-- What stands at a path on the disk. -/
def nodeOnDisk (path : String) : IO (Option Node) := do
  try
    if ← (← IO.FS.realPath path).isDir then return some .folder
    let bytes := (← IO.FS.readBinFile path).toList
    return some (.file ((Outline.decode? bytes).elim (.bytes bytes) .text))
  catch _ => return none

/-- The place that components lead to if all of them are folders. -/
def placeOf (path : String) : Place :=
  (Files.components path).foldl (fun place c =>
    if c = "" ∨ c = "." then place else if c = ".." then Files.above place else place ++ [c])
    (if Files.isAbsolute path then Files.root else [])

/-- Adds what stands at a path, and at all paths that lead to it. -/
def addPath (files : Files) (path : String) : IO Files := do
  let cs := Files.components path
  (List.range cs.length).foldlM (fun files n => do
    let upper := Text.joinWith "/" (cs.take (n + 1))
    match ← nodeOnDisk upper with
    | some node =>
      let place := placeOf upper
      return if Files.isBase place then files else files.put place node
    | none => return files) files

/-- Adds a folder with its files. -/
def addFolder (files : Files) (folder : String) : IO Files := do
  let files ← addPath files folder
  try
    let entries ← (← IO.FS.realPath folder).readDir
    entries.foldlM (fun files entry => addPath files (joinPath folder entry.fileName)) files
  catch _ => return files

/-- The files that a command line names. -/
def filesOnDisk (a : Arguments) : IO Files := do
  let named := a.files.map (·.2) ++ a.config?.toList ++ a.destinations.filterMap Destination.path?
  let files ← named.foldlM addPath .empty
  a.docFolder?.toList.foldlM addFolder files

/-- Writes a file in one step. -/
def writeFile (place : Place) (content : Content) : IO Unit := do
  let path : String := match place with
    | "/" :: rest => "/" ++ Text.joinWith "/" rest
    | place => Text.joinWith "/" place
  match content with
  | .text s =>
    IO.FS.writeFile (path ++ ".part") s
    IO.FS.rename (path ++ ".part") path
  | .bytes _ => pure ()

/-- Carries out what arguments ask for. -/
def run (args : List String) : IO UInt32 := do
  match Arguments.parse? args with
  | none =>
    IO.eprintln "Error: invalid arguments"
    return 2
  | some a =>
    let files ← filesOnDisk a
    let outcome := a.run files
    (files.changes outcome.world.files).forM fun (place, content) => writeFile place content
    IO.print outcome.world.standard
    outcome.messages.forM IO.eprintln
    return outcome.code.value.toNat.toUInt32

end Bindery.Program

/-- The program. -/
def main (args : List String) : IO UInt32 := Bindery.Program.run args
