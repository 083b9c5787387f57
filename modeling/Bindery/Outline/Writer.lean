import Bindery.Outline.Reader

/-! # Writing trees as outlines

The written form of a tree is read back as the same tree, lists apart: they have no form of their own and
are written as their items with commas. A tree is refused if one of its keys or texts cannot be written.
Each piece of a text goes on a line of its own; the pieces are what the continuation mark of the format
joins again. -/

namespace Bindery.Outline
open Attr (Value Tree)

/-- One level of indentation. -/
def step : String := "    "

/-- The indentation of a level. -/
def margin (depth : Nat) : String := String.join (List.replicate depth step)

/-- Why a key cannot be written, if it cannot. -/
def keyFault? (key : String) : Option String :=
  if key = "" then some "empty key"
  else if Text.trim key ≠ key ∨ key.toList.head? = some '#' then
    some "key must not be padded or start with '#'"
  else if key.toList.any fun c => c == ':' || c == ',' || Text.isLineEnd c then
    some "key must not contain ':', ',' or line breaks"
  else none

/-- Why a piece of a text cannot be written, if it cannot: blanks at the beginning of a line are lost on
reading, and so are those at the end of the last one. -/
def pieceFault? (isLast : Bool) (piece : List Char) : Option String :=
  if piece.isEmpty || piece.head?.any Text.isBlank then
    some "text segments must not be empty or start with whitespace"
  else if isLast && piece.getLast?.any (fun c => Text.isBlank c || c == '\\') then
    some "text must not end with whitespace or a backslash"
  else if piece.any Text.isLineEnd then some "text contains an unrepresentable line break"
  else none

/-- Why a text given by its pieces cannot be written, if it cannot. -/
def piecesFault? : List (List Char) → Option String
  | [] => none
  | [p] => pieceFault? true p
  | p :: ps => (pieceFault? false p).or (piecesFault? ps)

/-- The lines of a text given by its pieces, the first of which follows its key. -/
def pieceLines (indent : String) : List (List Char) → String
  | [] => ""
  | [p] => String.ofList p ++ "\n"
  | p :: ps => String.ofList p ++ "\\\n" ++ indent ++ step ++ pieceLines indent ps

/-- Refuses a key that cannot be written. -/
def checkKey (key : String) : Except Error Unit :=
  match keyFault? key with
  | some reason => .error (.invalidDescriptor key reason)
  | none => .ok ()

/-- The written form of a text after its key. -/
def writeText (indent key text : String) : Except Error String :=
  let pieces := Text.splitAtChars joiner 0 text.toList
  match piecesFault? pieces with
  | some reason => .error (.invalidDescriptor key reason)
  | none => .ok (pieceLines indent pieces)

mutual
/-- The written form of an entry at a level. -/
def writeEntry (depth : Nat) (key : String) : Value → Except Error String
  | .text s => do
    checkKey key
    return margin depth ++ key ++ ": " ++ (← writeText (margin depth) key s)
  | .list items => do
    checkKey key
    return margin depth ++ key ++ ": " ++ (← writeText (margin depth) key (Text.commaJoin items))
  | .map entries => do
    checkKey key
    return margin depth ++ key ++ ":\n" ++ String.join (← writeEntries (depth + 1) entries)
termination_by structural v => v
/-- The written forms of entries at a level. -/
def writeEntries (depth : Nat) : List (String × Value) → Except Error (List String)
  | [] => .ok []
  | (key, value) :: rest => do
    let first ← writeEntry depth key value
    return first :: (← writeEntries depth rest)
termination_by structural es => es
end

/-- The written form of a tree: a blank line stands between its entries. -/
def write (tree : Tree) : Except Error String := do
  return Text.joinWith "\n" (← writeEntries 0 tree)

end Bindery.Outline
