import Bindery.Entries
import Bindery.Text.Pieces

/-! # Attribute trees

A specification is a tree of attributes: a value is a text, a list of texts (which only YAML sources can
write) or a mapping from names to values. Functions and types are generated in the order in which a tree
mentions them, so the order of entries is part of the tree. -/

namespace Bindery.Attr

/-- A value of an attribute. -/
inductive Value where
  | text (s : String)
  | list (items : List String)
  | map (entries : List (String × Value))
deriving Repr, Inhabited

/-- The attributes of one thing, by name. -/
abbrev Tree := Entries Value

namespace Value

mutual
/-- Equality of values is decidable. -/
def decEq : (a b : Value) → Decidable (a = b)
  | .text s, .text t => if h : s = t then isTrue (h ▸ rfl) else isFalse fun e => h (by cases e; rfl)
  | .list s, .list t => if h : s = t then isTrue (h ▸ rfl) else isFalse fun e => h (by cases e; rfl)
  | .map s, .map t =>
    match decEqTree s t with
    | isTrue h => isTrue (h ▸ rfl)
    | isFalse h => isFalse fun e => h (by cases e; rfl)
  | .text _, .list _ | .text _, .map _ | .list _, .text _ | .list _, .map _ | .map _, .text _
  | .map _, .list _ => isFalse (fun e => by cases e)
termination_by structural v => v
/-- Equality of trees is decidable. -/
def decEqTree : (a b : List (String × Value)) → Decidable (a = b)
  | [], [] => isTrue rfl
  | [], _ :: _ | _ :: _, [] => isFalse (fun e => by cases e)
  | (k, v) :: s, (l, w) :: t =>
    if hk : k = l then
      match decEq v w, decEqTree s t with
      | isTrue hv, isTrue ht => isTrue (by rw [hk, hv, ht])
      | isFalse hv, _ => isFalse fun e => hv (by cases e; rfl)
      | _, isFalse ht => isFalse fun e => ht (by cases e; rfl)
    else isFalse fun e => hk (by cases e; rfl)
termination_by structural es => es
end

instance : DecidableEq Value := decEq

/-- The mapping without entries; it stands for a key without a value. -/
def empty : Value := map []

/-- What a message calls the shape of a value. -/
def kind : Value → String
  | text _ => "text"
  | list _ => "list"
  | map _ => "mapping"

/-- The text of a text value. -/
def text? : Value → Option String
  | text s => some s
  | _ => none

/-- The items of a list value. -/
def list? : Value → Option (List String)
  | list items => some items
  | _ => none

/-- The tree of a mapping value. -/
def map? : Value → Option Tree
  | map entries => some entries
  | _ => none

/-- The items of a value that is read as a list: a text is split at commas, blanks around an item are
dropped, and so are empty items. A key without a value has no items; another mapping is no list. -/
def items? : Value → Option (List String)
  | text s => some (clean (Text.split ',' s))
  | list items => some (clean items)
  | map [] => some []
  | map (_ :: _) => none
where
  clean (items : List String) : List String := (items.map Text.trim).filter (· ≠ "")

/-- What a value says where a template is expected: a key without a value is the empty template. -/
def template? : Value → Option String
  | text s => some s
  | map [] => some ""
  | _ => none

end Value

/-! ### Merging

Nested mappings are merged entry by entry, lists are joined, and otherwise the later value replaces the
earlier one. Entries that are new come at the end. -/

mutual
/-- The value a name has after merging, where `old` is the value it had. -/
def mergeValue (old : Option Value) : Value → Value
  | .map new =>
    match old with
    | some (.map old) => .map (merge old new)
    | _ => .map new
  | .list new =>
    match old with
    | some (.list old) => .list (old ++ new)
    | _ => .list new
  | .text new => .text new
termination_by structural v => v
/-- Merges the entries of the second tree into the first. -/
def merge (target : List (String × Value)) : List (String × Value) → List (String × Value)
  | [] => target
  | (k, v) :: rest => merge (Entries.set target k (mergeValue (Entries.get? target k) v)) rest
termination_by structural es => es
end

/-! ### Equality up to the order of entries -/

mutual
/-- Whether two values agree when the order of entries is left out of account. -/
def Value.agrees : Value → Value → Bool
  | .text s, .text t => s == t
  | .list s, .list t => s == t
  | .map s, .map t => s.length == t.length && agreesIn s t
  | _, _ => false
termination_by structural v => v
/-- Whether every entry of the first tree has an agreeing one in the second. -/
def agreesIn : List (String × Value) → List (String × Value) → Bool
  | [], _ => true
  | (k, v) :: rest, t =>
    (match Entries.get? t k with
      | some w => Value.agrees v w
      | none => false) && agreesIn rest t
termination_by structural es => es
end

end Bindery.Attr
