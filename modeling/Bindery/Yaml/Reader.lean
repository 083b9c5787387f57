import Bindery.Yaml.Node
import Bindery.Yaml.Scalar

/-! # Reading YAML

Tags are interpreted and aliases followed. A document may be nested 128 collections deep, and aliases may be
followed at most a hundred times per event, so that a short text cannot stand for an endless value. -/

namespace Bindery.Yaml

/-- The tag of a type that the language itself names. -/
def coreTag (name : String) : TagBytes := .ofText ("tag:yaml.org,2002:" ++ name)

/-- Whether a tag begins with an exclamation mark. -/
def isLocalTag (tag : TagBytes) : Bool := tag.head? == some '!'.toUInt8

/-- Bytes without the exclamation mark that they begin with, unless nothing else follows it. -/
def withoutMark : TagBytes → TagBytes
  | b :: rest@(_ :: _) => if b == '!'.toUInt8 then rest else b :: rest
  | bytes => bytes

/-- The name that a document gives to a value: a local tag, if it is a text, without the exclamation mark
that makes it local and without another after that. -/
def localName? (tag : Option TagBytes) : Option String :=
  match tag with
  | some tag => if isLocalTag tag then String.fromUTF8? ⟨(withoutMark (withoutMark tag)).toArray⟩ else none
  | none => none

/-- A scalar without a tag. -/
def untaggedScalar? (style : Style) (text : String) : Option Value :=
  match style with
  | .plain => Value.ofPlain? text
  | .quoted => some (.string text)

/-- A scalar with a tag that gives it no name. -/
def taggedScalar? (tag : TagBytes) (style : Style) (text : String) : Option Value :=
  if tag == coreTag "bool" then (bool? text).map .bool
  else if tag == coreTag "int" then
    match readInteger text.toList with
    | .fits n => some (.number (.integer n))
    | _ => none
  else if tag == coreTag "float" then (real? text.toList).map .number
  else if tag == coreTag "null" then if isNull text then some .null else none
  else if isLocalTag tag then untaggedScalar? style text
  else some (.string text)

/-- A scalar. -/
def scalarValue? (tag : Option TagBytes) (style : Style) (text : String) : Option Value :=
  match tag, localName? tag with
  | some _, some name => (untaggedScalar? style text).map (.tagged name)
  | some tag, none => taggedScalar? tag style text
  | none, _ => untaggedScalar? style text

/-- A step of following aliases; the state is the number that may still be followed. -/
abbrev FollowM := StateT Nat Option

/-- The node that a node stands for. -/
def Node.follow (nodes : List (Nat × Node)) : Node → FollowM Node
  | .alias number => do
    let left ← get
    match left, nodes.lookup number with
    | left + 1, some n => do
      set left
      return n
    | _, _ => failure
  | n => return n

/-- Gives a collection the name of its tag. -/
def named (tag : Option TagBytes) (v : Value) : Value :=
  match localName? tag with
  | some name => .tagged name v
  | none => v

/-- Two keys of a mapping that are the same are refused. -/
def distinctKeys : List Value → Bool
  | [] => true
  | k :: ks => !ks.any (Value.same k) && distinctKeys ks

/-- The value of a node that is nested at most `depth` collections deep. -/
def Node.value (nodes : List (Nat × Node)) : (depth : Nat) → Node → FollowM Value
  | depth, n => do
    match ← n.follow nodes with
    | .scalar tag style text => (scalarValue? tag style text).elim failure pure
    | .sequence tag items =>
      match depth with
      | 0 => failure
      | depth + 1 => return named tag (.sequence (← items.mapM (Node.value nodes depth)))
    | .mapping tag entries =>
      match depth with
      | 0 => failure
      | depth + 1 =>
        let entries ← entries.mapM fun e => do
          let k ← Node.value nodes depth e.1
          return (k, ← Node.value nodes depth e.2)
        if distinctKeys (entries.map (·.1)) then return named tag (.mapping entries) else failure
    | .alias _ => failure

/-- The value of a document; an empty one is null. -/
def Document.value? (d : Document) : Option Value :=
  match d.root with
  | none => some .null
  | some n => ((n.value d.nodes 128).run (100 * d.events)).map (·.1)

/-- The value that a text writes, if it is well-formed. -/
def Value.ofText? (s : String) : Option Value := (Document.ofText? s).bind Document.value?

/-- The attribute tree that a text writes; `name` is what failures are reported of. -/
def read (name s : String) : Except Error Attr.Tree :=
  match Value.ofText? s with
  | none => .error (.yaml name)
  | some v => v.tree name

end Bindery.Yaml
