import Bindery.NameSet
import Bindery.Outline.Scan
import Bindery.Source

/-! # Files

The files and folders below a working directory, as a run sees and leaves them. A path is a text; its
components are taken one after the other from the working directory on. What goes wrong is worded as the
operating system words it. -/

namespace Bindery

/-- What a file holds: a text, or bytes that are not a text. -/
inductive Content where
  | text (s : String)
  | bytes (bs : List UInt8)
deriving Repr, DecidableEq, Inhabited

/-- What stands at a place. -/
inductive Node where
  | file (content : Content)
  | folder
deriving Repr, DecidableEq, Inhabited

/-- The names that lead to a place from the working directory: `..` to the folder above it, and `/` to the
root. -/
abbrev Place := List String

/-- Files and folders by place. The working directory, those above it and the root are not listed. -/
structure Files where
  nodes : List (Place × Node)
deriving Repr, DecidableEq, Inhabited

namespace Files

/-- The reason given where nothing stands at a place. -/
def missingReason : String := "No such file or directory (os error 2)"

/-- The reason given where something other than a folder is entered. -/
def notFolderReason : String := "Not a directory (os error 20)"

/-- The reason given where a folder is read or written as a file. -/
def folderReason : String := "Is a directory (os error 21)"

/-- The reason given where a folder that is in use would be replaced. -/
def busyReason : String := "Device or resource busy (os error 16)"

/-- The reason given where a path or one of its components is too long. -/
def longReason : String := "File name too long (os error 36)"

/-- The reason given where a path holds the zero character. -/
def zeroReason : String := "file name contained an unexpected NUL byte"

/-- A working directory without files. -/
def empty : Files := ⟨[]⟩

/-- The place of the root. -/
def root : Place := ["/"]

/-- Whether a place is the working directory, one above it or the root; a folder always stands there. -/
def isBase (place : Place) : Bool := place == root || place.all (· == "..")

/-- The place above a place. -/
def above (place : Place) : Place :=
  if place = root then root else if isBase place then ".." :: place else place.dropLast

/-- The node at a place. -/
def node? (d : Files) (place : Place) : Option Node :=
  if isBase place then some .folder else (d.nodes.find? (·.1 = place)).map (·.2)

/-- Puts a node at a place. -/
def put (d : Files) (place : Place) (node : Node) : Files :=
  if d.nodes.any (·.1 = place) then
    ⟨d.nodes.map fun e => if e.1 = place then (place, node) else e⟩
  else ⟨d.nodes ++ [(place, node)]⟩

/-- Makes the folders that lead to a place. -/
def withFolders (d : Files) (place : Place) : Files :=
  (List.range place.length).foldl (fun d n =>
    let upper := place.take n
    if (d.node? upper).isSome then d else d.put upper .folder) d

/-- Adds a node with the folders that lead to it. -/
def add (d : Files) (place : Place) (node : Node) : Files := (d.withFolders place).put place node

/-! ### Paths -/

/-- The components of a path. -/
def components (path : String) : List String := Text.split '/' path

/-- The greatest number of bytes of a component. -/
def componentBound : Nat := 255

/-- The number of bytes that a path may not reach. -/
def pathBound : Nat := 4096

/-- The place that components lead to from a place; fails where they pass through anything but a folder, and
at a component that is too long. -/
def walk (d : Files) (place : Place) : List String → Except String Place
  | [] => .ok place
  | c :: cs =>
    match d.node? place with
    | none => .error missingReason
    | some (.file _) => .error notFolderReason
    | some .folder =>
      if c = "" ∨ c = "." then walk d place cs
      else if c = ".." then walk d (above place) cs
      else if componentBound < c.utf8ByteSize then .error longReason
      else walk d (place ++ [c]) cs

/-- Whether a path begins at the root. -/
def isAbsolute (path : String) : Bool := path.toList.head? == some '/'

/-- The place that a path leads to. -/
def place (d : Files) (path : String) : Except String Place :=
  if '\x00' ∈ path.toList then .error zeroReason
  else if path = "" then .error missingReason
  else if pathBound ≤ path.utf8ByteSize then .error longReason
  else d.walk (if isAbsolute path then root else []) (components path)

/-- What a path leads to. -/
def lookUp (d : Files) (path : String) : Except String Node := do
  match d.node? (← d.place path) with
  | some node => .ok node
  | none => .error missingReason

/-- Whether a path leads to a file. -/
def isFile (d : Files) (path : String) : Bool :=
  match d.lookUp path with
  | .ok (.file _) => true
  | _ => false

/-- Whether a path leads to a folder. -/
def isFolder (d : Files) (path : String) : Bool :=
  match d.lookUp path with
  | .ok .folder => true
  | _ => false

/-! ### Reading -/

/-- The content of the file that a path leads to. -/
def read (d : Files) (path : String) : Except Error Content :=
  match d.lookUp path with
  | .ok (.file content) => .ok content
  | .ok .folder => .error (.io path folderReason)
  | .error reason => .error (.io path reason)

/-- The text of the file that a path leads to. -/
def readText (d : Files) (path : String) : Except Error String := do
  match ← d.read path with
  | .text s => .ok s
  | .bytes _ => .error (.io path Outline.notTextReason)

/-- The names in the folder that a path leads to, in ascending order. -/
def list (d : Files) (path : String) : Except String (List String) := do
  let place ← d.place path
  match d.node? place with
  | none => .error missingReason
  | some (.file _) => .error notFolderReason
  | some .folder =>
    let names := d.nodes.filterMap fun e => if e.1.dropLast = place then e.1.getLast? else none
    .ok (NameSet.empty.insertAll names).members

/-! ### Writing -/

/-- The beginning of a path, with which it keeps its meaning when its last component is dropped: the slash
of the root, or a dot that is a component, and the rest of the path. -/
def splitHead (path : String) : String × String :=
  match path.toList with
  | '/' :: rest => ("/", String.ofList rest)
  | ['.'] => (".", "")
  | '.' :: '/' :: rest => (".", "/" ++ String.ofList rest)
  | _ => ("", path)

/-- Components without those at the end that say nothing. -/
def withoutVoid (cs : List String) : List String :=
  (cs.reverse.dropWhile fun c => c = "" ∨ c = ".").reverse

/-- The path of the folder in which the last component of a path is looked for. What stands between the
components before that one is kept. -/
def parent (path : String) : String :=
  let (head, body) := splitHead path
  let upper := head ++ Text.joinWith "/" (withoutVoid (withoutVoid (components body)).dropLast)
  if upper = "" then "." else upper

/-- Whether the last component of a path is a name. -/
def isNamed (path : String) : Bool :=
  match ((components path).filter (· ≠ "")).getLast? with
  | none | some "." | some ".." => false
  | some _ => true

/-- A path without the slashes at its end. -/
def withoutSlashes (path : String) : String := String.ofList (Text.dropEndWhile (· == '/') path.toList)

/-- The place at which a path has a file written. -/
def fileSlot (d : Files) (path : String) : Except String Place :=
  if !isNamed path then (d.place path).bind fun _ => .error busyReason
  else do
    let place ← d.place (withoutSlashes path)
    if withoutSlashes path ≠ path then .error notFolderReason
    else if d.node? place = some .folder then .error folderReason
    else .ok place

/-- Writes a text to a path, in the place of what a file there held. -/
def write (d : Files) (path text : String) : Except Error Files :=
  match d.lookUp (parent path) with
  | .error reason => .error (.io (parent path) reason)
  | .ok (.file _) => .error (.io (parent path) notFolderReason)
  | .ok .folder =>
    match d.fileSlot path with
    | .error reason => .error (.io path reason)
    | .ok place => .ok (d.put place (.file (.text text)))

/-- The files in which two states differ, with what they hold in the second, by place. -/
def changes (before after : Files) : List (Place × Content) :=
  after.nodes.filterMap fun e =>
    match e.2 with
    | .file content => if before.node? e.1 = some e.2 then none else some (e.1, content)
    | .folder => none

end Files

/-- The path of a name in the folder that a path leads to. -/
def joinPath (folder name : String) : String :=
  if folder = "" ∨ folder.toList.getLast? = some '/' then folder ++ name else folder ++ "/" ++ name

end Bindery
