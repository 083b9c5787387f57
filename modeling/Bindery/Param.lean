import Bindery.Error
import Bindery.Text.Pieces

/-! # Parameters

A parameter has a name, an abstract type and a direction, and possibly a default value. It is written
`[PRIMARY|OPTIONAL]* [IN|OUT|INOUT]? type name [= default]`, where a missing direction means `IN`. -/

namespace Bindery

/-- The direction of a parameter. -/
inductive Mode where
  /-- The call reads it. -/
  | input
  /-- The call writes it. -/
  | output
  /-- The call reads and writes it. -/
  | both
deriving Repr, DecidableEq, Inhabited

namespace Mode

/-- The keyword of a direction; it is also the key of a template for that direction. -/
def keyword : Mode → String
  | input => "IN"
  | output => "OUT"
  | both => "INOUT"

/-- The direction of a keyword. -/
def ofKeyword? (s : String) : Option Mode :=
  if s = "IN" then some input else if s = "OUT" then some output else if s = "INOUT" then some both
  else none

/-- The direction of a keyword; anything else is refused. -/
def ofKeyword (s : String) : Except Error Mode :=
  match ofKeyword? s with
  | some m => .ok m
  | none => .error (.invalidArgument s!"unknown parameter mode '{s}'")

/-- Whether the call reads the parameter. -/
def reads : Mode → Bool
  | input | both => true
  | output => false

/-- Whether the call writes the parameter. -/
def writes : Mode → Bool
  | output | both => true
  | input => false

theorem ofKeyword?_keyword (m : Mode) : ofKeyword? m.keyword = some m := by cases m <;> rfl

end Mode

/-- A parameter of a function. -/
structure Param where
  name : String
  /-- The name of its abstract type. -/
  type : String
  mode : Mode
  default : Option String
  /-- The parameters that its templates may refer to by number. -/
  dependencies : List String
  /-- It belongs to what a target with one result returns. -/
  primary : Bool
  /-- A target with one result may leave it out. -/
  optional : Bool
  /-- Its name among several results, if that is not its own. -/
  outputName : Option String
deriving Repr, DecidableEq, Inhabited

namespace Param

/-- A parameter with nothing but a name, a type and a direction. -/
def plain (name type : String) (mode : Mode) : Param := ⟨name, type, mode, none, [], false, false, none⟩

/-- Whether the call reads it. -/
def reads (p : Param) : Bool := p.mode.reads

/-- Whether the call writes it. -/
def writes (p : Param) : Bool := p.mode.writes

/-- Its name among several results. -/
def displayName (p : Param) : String := p.outputName.getD p.name

/-- Its `n`-th dependency, counted from 1. -/
def dependency? (p : Param) (n : Nat) : Option String :=
  match n with
  | 0 => none
  | i + 1 => p.dependencies[i]?

/-! ### Parsing -/

/-- The flags at the beginning of a declaration: whether it is primary, whether it is optional, and the
words after the flags. -/
def takeFlags : List String → Bool × Bool × List String
  | [] => (false, false, [])
  | w :: ws =>
    if w = "PRIMARY" then let (_, o, rest) := takeFlags ws; (true, o, rest)
    else if w = "OPTIONAL" then let (p, _, rest) := takeFlags ws; (p, true, rest)
    else (false, false, w :: ws)

/-- The direction at the beginning of words, and the words after it. -/
def takeMode : List String → Mode × List String
  | [] => (.input, [])
  | w :: ws =>
    match Mode.ofKeyword? w with
    | some m => (m, ws)
    | none => (.input, w :: ws)

/-- What stands before the equals sign of a declaration, and the default after it. -/
def takeDefault (item : String) : String × Option String :=
  match Text.cut? '=' item with
  | some (head, default) => (head, some (Text.trim default))
  | none => (item, none)

/-- The parameter that an item of a parameter list declares; `function` is named in failures. -/
def parse (function item : String) : Except Error Param :=
  let item := Text.trim item
  let (head, default) := takeDefault item
  if default = some "" then .error (.invalidParameter function item "empty default value")
  else
    let (primary, optional, words) := takeFlags (Text.words head)
    let (mode, words) := takeMode words
    match words with
    | [type, name] => .ok ⟨name, type, mode, default, [], primary, optional, none⟩
    | _ => .error (.invalidParameter function item "expected a type followed by a name")

end Param
end Bindery
