import Bindery.Attr.Value
import Bindery.Decimal.Shortest
import Bindery.Error

/-! # Values of YAML and attribute trees

A YAML value is turned into an attribute by `toAttr`: scalars become texts, sequences of scalars lists and
null an empty mapping; a tag is dropped. `ofAttr` is the other direction, in which every scalar is a
string. -/

namespace Bindery.Yaml

/-- A number. -/
inductive Number where
  | integer (n : Int)
  | binary (b : Decimal.Binary)
  | infinite (negative : Bool)
  | notANumber
deriving Repr, DecidableEq, Inhabited

/-- A number as text. -/
def Number.show : Number → String
  | integer n => toString n
  | binary b => b.show
  | infinite false => ".inf"
  | infinite true => "-.inf"
  | notANumber => ".nan"

/-- Numbers are the same if they are equal; the two zeros are. -/
def Number.same : Number → Number → Bool
  | binary a, binary b => a == b || (a.mantissa == 0 && b.mantissa == 0)
  | a, b => a == b

/-- A value of a document. -/
inductive Value where
  | null
  | bool (b : Bool)
  | number (n : Number)
  | string (s : String)
  | sequence (items : List Value)
  | mapping (entries : List (Value × Value))
  | tagged (tag : String) (value : Value)
deriving Repr, Inhabited

namespace Value

mutual
/-- Whether two values are the same as keys of a mapping. The order of entries does not matter. -/
def same : Value → Value → Bool
  | .null, .null => true
  | .bool a, .bool b => a == b
  | .number a, .number b => a.same b
  | .string a, .string b => a == b
  | .sequence a, .sequence b => sameItems a b
  | .mapping a, .mapping b => a.length == b.length && sameEntries a b
  | .tagged t a, .tagged u b => t == u && same a b
  | _, _ => false
termination_by structural v => v
/-- Whether two lists of values are the same. -/
def sameItems : List Value → List Value → Bool
  | [], [] => true
  | a :: as, b :: bs => same a b && sameItems as bs
  | _, _ => false
termination_by structural vs => vs
/-- Whether every entry of a list has the same entry in another, which may list it elsewhere. -/
def sameEntries : List (Value × Value) → List (Value × Value) → Bool
  | [], _ => true
  | (k, v) :: as, bs => bs.any (fun (l, w) => same k l && same v w) && sameEntries as bs
termination_by structural es => es
end

/-- The text of a scalar, whatever its tags. -/
def scalar? : Value → Option String
  | string s => some s
  | number n => some n.show
  | bool true => some "true"
  | bool false => some "false"
  | tagged _ v => scalar? v
  | null | sequence _ | mapping _ => none

/-- The failure of a document that is well-formed but no attribute tree. -/
def refused (name reason : String) : Error := .invalidDescriptor name reason

/-- The texts of the items of a sequence. -/
def itemTexts (name : String) : List Value → Except Error (List String)
  | [] => .ok []
  | v :: vs =>
    match scalar? v with
    | some s => (itemTexts name vs).map (s :: ·)
    | none => .error (refused name "sequence items must be scalars")

mutual
/-- A value as an attribute; `name` is what a failure is reported of. -/
def toAttr (name : String) : Value → Except Error Attr.Value
  | .null => .ok .empty
  | .mapping entries => (toTree name [] entries).map .map
  | .sequence items => (itemTexts name items).map .list
  | .tagged _ v => toAttr name v
  | .string s => .ok (.text s)
  | .number n => .ok (.text n.show)
  | .bool b => .ok (.text (if b then "true" else "false"))
termination_by structural v => v
/-- Entries of a mapping, set one after the other in a tree. -/
def toTree (name : String) (tree : Attr.Tree) : List (Value × Value) → Except Error Attr.Tree
  | [] => .ok tree
  | (k, v) :: rest =>
    match scalar? k with
    | none => .error (refused name "mapping keys must be scalars")
    | some key =>
      match toAttr name v with
      | .ok value => toTree name (Entries.set tree key value) rest
      | .error e => .error e
termination_by structural es => es
end

mutual
/-- An attribute as a value: texts are strings, lists are sequences of strings. -/
def ofAttr : Attr.Value → Value
  | .text s => .string s
  | .list items => .sequence (items.map .string)
  | .map entries => .mapping (ofTree entries)
termination_by structural v => v
/-- The entries of a tree as entries of a mapping. -/
def ofTree : List (String × Attr.Value) → List (Value × Value)
  | [] => []
  | (k, v) :: rest => (.string k, ofAttr v) :: ofTree rest
termination_by structural es => es
end

/-- The attribute tree that a document's value is. -/
def tree (name : String) (v : Value) : Except Error Attr.Tree :=
  match toAttr name v with
  | .ok (.map entries) => .ok entries
  | .ok other => .error (refused name s!"top level must be a mapping, found {other.kind}")
  | .error e => .error e

end Value
end Bindery.Yaml
