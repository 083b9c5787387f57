import Bindery.Decimal.Digits
import Bindery.Entries
import Bindery.Error
import Bindery.Stencil.Quantity
import Bindery.Text.Pieces

/-! # Data for stencils

What a stencil is filled with: null, truth values, numbers, texts, lists and records. The fields of a record
are in the order of their names. -/

namespace Bindery.Stencil

/-- A value that a stencil is filled with. -/
inductive Datum where
  | null
  | bool (b : Bool)
  | number (q : Quantity)
  | text (s : String)
  | list (items : List Datum)
  | record (fields : List (String × Datum))
deriving Repr, Inhabited

/-- A field is put in the place of its name in order; a field of the same name is replaced. -/
def insertField (name : String) (d : Datum) : List (String × Datum) → List (String × Datum)
  | [] => [(name, d)]
  | (k, e) :: rest =>
    if name < k then (name, d) :: (k, e) :: rest
    else if name = k then (name, d) :: rest
    else (k, e) :: insertField name d rest

mutual
/-- A datum as text. Null has none, and a record does not show its fields. -/
def Datum.show : Datum → String
  | .null => ""
  | .bool b => if b then "true" else "false"
  | .number q => q.show
  | .text s => s
  | .list items => "[" ++ Text.commaJoin (showItems items) ++ "]"
  | .record _ => "[object]"
/-- The items of a list as texts. -/
def showItems : List Datum → List String
  | [] => []
  | d :: ds => d.show :: showItems ds
end

namespace Datum

mutual
/-- Whether two data are equal. An integer never equals a number with a point. -/
def same : Datum → Datum → Bool
  | .null, .null => true
  | .bool a, .bool b => a == b
  | .number a, .number b => a.same b
  | .text a, .text b => a == b
  | .list a, .list b => sameItems a b
  | .record a, .record b => sameFields a b
  | _, _ => false
/-- Whether two lists of data are equal. -/
def sameItems : List Datum → List Datum → Bool
  | [], [] => true
  | d :: ds, e :: es => same d e && sameItems ds es
  | _, _ => false
/-- Whether two lists of fields are equal. -/
def sameFields : List (String × Datum) → List (String × Datum) → Bool
  | [], [] => true
  | (j, d) :: ds, (k, e) :: es => j == k && same d e && sameFields ds es
  | _, _ => false
end

/-- Whether a datum counts as true; zero does if `includeZero` is set. -/
def holds (includeZero : Bool) : Datum → Bool
  | .null => false
  | .bool b => b
  | .number q => includeZero || q.holds
  | .text s => s ≠ ""
  | .list items => !items.isEmpty
  | .record fields => !fields.isEmpty

/-- The number of items, of fields or of bytes of a text. -/
def size : Datum → Nat
  | .list items => items.length
  | .record fields => fields.length
  | .text s => s.utf8ByteSize
  | _ => 0

/-- The order of two data that have one: of two numbers, texts or truth values, or of a number and a text
that writes one. -/
def compare? : Datum → Datum → Option Ordering
  | .number a, .number b => some (a.compare b)
  | .text a, .text b => some (compare a b)
  | .bool a, .bool b => some (compare a b)
  | .number a, .text b => (Quantity.ofText? b).map a.compare
  | .text a, .number b => (Quantity.ofText? a).map (·.compare b)
  | _, _ => none

/-- The place in a list that a text writes: a number of 64 bits, possibly after a plus sign. -/
def index? (s : String) : Option Nat :=
  let cs := s.toList
  (Decimal.natural? 10 (if cs.head? = some '+' then cs.drop 1 else cs)).filter (· < Quantity.wordBound)

/-- The item or field of a name, if there is one. In a list only places are names. -/
def step (d : Datum) (name : String) : Except Error (Option Datum) :=
  match d with
  | .list items =>
    match index? name with
    | some i => .ok items[i]?
    | none => .error (.skeleton s!"'{name}' is no place in a list")
  | .record fields => .ok (Entries.get? fields name)
  | _ => .ok none

/-- What stands at the end of a path, if anything does. -/
def follow (d : Datum) : List String → Except Error (Option Datum)
  | [] => .ok (some d)
  | name :: names =>
    match d.step name with
    | .error e => .error e
    | .ok none => .ok none
    | .ok (some e) => e.follow names

/-- Fields in the order of their names, put one after the other into others; of a name the last one stays. -/
def insertFields (old fields : List (String × Datum)) : List (String × Datum) :=
  fields.foldl (fun t f => insertField f.1 f.2 t) old

/-- The record of fields in any order. -/
def ofFields (fields : List (String × Datum)) : Datum := .record (insertFields [] fields)

/-- What a datum has under names: a record its fields, a list its items and a text its characters under their
places, and anything else nothing. -/
def fields : Datum → List (String × Datum)
  | .record fields => fields
  | .list items => insertFields [] (items.mapIdx fun i d => (toString i, d))
  | .text s => insertFields [] (s.toList.mapIdx fun i c => (toString i, .text (String.singleton c)))
  | _ => []

/-- The record of what a datum has under names, in which some fields are set. -/
def setFields (named : List (String × Datum)) (d : Datum) : Datum := .record (insertFields d.fields named)

end Datum
end Bindery.Stencil
