import Bindery.Files

/-! # Documentation of functions

A folder holds the documentation of functions, that of `f` in the file `f.txt`. The folder is read when it
is first asked for, and then never again; a failure to read it is not kept. -/

namespace Bindery

/-- A folder of documentation and what has been read of it. -/
structure Docs where
  folder : String
  texts? : Option (Entries String)
deriving Repr, DecidableEq, Inhabited

namespace Docs

/-- A folder that has not been read. -/
def unread (folder : String) : Docs := ⟨folder, none⟩

/-- The function that a file documents, by the name of the file. -/
def documented? (fileName : String) : Option String :=
  match splitExtension fileName with
  | (stem, some "txt") => some stem
  | _ => none

/-- The documentation in a folder. -/
def readFolder (files : Files) (folder : String) : Except Error (Entries String) := do
  let names ← (files.list folder).mapError (.io folder)
  let texts ← names.mapM fun name =>
    match documented? name with
    | none => .ok []
    | some function => do
      let path := joinPath folder name
      if files.isFile path then return [(function, Text.trim (← files.readText path))] else return []
  return Entries.ofList texts.flatten

/-- The documentation of a function, if there is any. -/
def text? (files : Files) (d : Docs) (function : String) : Docs × Except Error (Option String) :=
  match d.texts? with
  | some texts => (d, .ok (Entries.get? texts function))
  | none =>
    match readFolder files d.folder with
    | .ok texts => ({ d with texts? := some texts }, .ok (Entries.get? texts function))
    | .error e => (d, .error e)

/-- The lines of a documentation as comments of R. -/
def comments (doc : String) : String :=
  String.join ((Text.lines doc).map fun line => Text.trimEnd ("#' " ++ line) ++ "\n")

end Docs
end Bindery
