import Bindery.Outline.Writer
import Bindery.Yaml.Reader
import Bindery.Yaml.Writer
import Bindery.Text.LetterCase

/-! # Sources of specifications

A specification is an outline or a YAML document; the extension of a file tells which. Both describe
attribute trees. -/

namespace Bindery

/-- The format of a specification. -/
inductive Format where
  | outline
  | yaml
deriving Repr, DecidableEq, Inhabited

/-- The last component of a path, if it names something. -/
def fileName? (path : String) : Option String :=
  match ((Text.split '/' path).filter fun part => part ≠ "" ∧ part ≠ ".").getLast? with
  | some ".." => none
  | some name => some name
  | none => none

/-- A name cut at its last dot. A dot at its beginning does not count. -/
def splitExtension (name : String) : String × Option String :=
  let cs := name.toList.reverse
  match Text.cutWhere? (· == '.') cs with
  | some (ext, stem) =>
    if stem.isEmpty then (name, none)
    else (String.ofList stem.reverse, some (String.ofList ext.reverse))
  | none => (name, none)

/-- The extension of the file a path names. -/
def extension? (path : String) : Option String := (fileName? path).bind fun name => (splitExtension name).2

namespace Format

/-- The format of a file: the extensions `yaml` and `yml`, in any case, mean YAML. -/
def ofPath (path : String) : Format :=
  match (extension? path).map Text.asciiLower with
  | some "yaml" | some "yml" => yaml
  | _ => outline

/-- The tree that a text describes; `name` is what failures are reported of. -/
def read (format : Format) (name text : String) : Except Error Attr.Tree :=
  match format with
  | outline => Outline.readLines name (Outline.Line.ofText text)
  | yaml => Yaml.read name text

/-- The written form of a tree. -/
def write (format : Format) (tree : Attr.Tree) : Except Error String :=
  match format with
  | outline => Outline.write tree
  | yaml => .ok (Yaml.write tree)

end Format
end Bindery
