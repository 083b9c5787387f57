import Bindery.Text.Blank

/-! # Cutting text into pieces

Splitting at a character, at blanks, at line ends or at a given text, and joining again. Everything is
structural recursion on the characters, so that what a cut loses (only the separators) can be read off
the definitions. -/

namespace Bindery.Text

/-- Puts a character in front of the first piece. -/
def consFirst (c : Char) : List (List Char) → List (List Char)
  | [] => [[c]]
  | p :: ps => (c :: p) :: ps

/-- Splits at every character that satisfies `p`; there is one piece more than separators. -/
def splitWhere (p : Char → Bool) : List Char → List (List Char)
  | [] => [[]]
  | c :: cs => if p c then [] :: splitWhere p cs else consFirst c (splitWhere p cs)

/-- Splits a text at every `sep`. -/
def split (sep : Char) (s : String) : List String :=
  (splitWhere (· == sep) s.toList).map String.ofList

/-- The maximal runs of characters that are not blank. -/
def wordChars (cs : List Char) : List (List Char) := (splitWhere isBlank cs).filter (!·.isEmpty)

/-- The words of a text: what blanks separate. -/
def words (s : String) : List String := (wordChars s.toList).map String.ofList

/-- Cuts at the first character that satisfies `p`, which is dropped. -/
def cutWhere? (p : Char → Bool) : List Char → Option (List Char × List Char)
  | [] => none
  | c :: cs => if p c then some ([], cs) else (cutWhere? p cs).map fun (a, b) => (c :: a, b)

/-- Cuts a text at the first `sep`, if it has one. -/
def cut? (sep : Char) (s : String) : Option (String × String) :=
  (cutWhere? (· == sep) s.toList).map fun (a, b) => (String.ofList a, String.ofList b)

/-- Cuts at the first place where `sep` stands, which is dropped. -/
def cutAtChars? (sep : List Char) : List Char → Option (List Char × List Char)
  | [] => if sep.isEmpty then some ([], []) else none
  | c :: cs =>
    match List.isPrefixOf? sep (c :: cs) with
    | some rest => some ([], rest)
    | none => (cutAtChars? sep cs).map fun (a, b) => (c :: a, b)

/-- Cuts a text at the first place where the text `sep` stands, if there is one. -/
def cutAt? (sep s : String) : Option (String × String) :=
  (cutAtChars? sep.toList s.toList).map fun (a, b) => (String.ofList a, String.ofList b)

/-- Splits at the separators found from left to right; `skip` characters of one are still to pass. -/
def splitAtChars (sep : List Char) : (skip : Nat) → List Char → List (List Char)
  | _, [] => [[]]
  | skip + 1, _ :: cs => splitAtChars sep skip cs
  | 0, c :: cs =>
    if sep.isPrefixOf (c :: cs) then [] :: splitAtChars sep (sep.length - 1) cs
    else consFirst c (splitAtChars sep 0 cs)

/-- Splits a text at every place, from left to right, where the text `sep` stands. -/
def splitAt (sep s : String) : List String :=
  (splitAtChars sep.toList 0 s.toList).map String.ofList

/-- Joins texts with `sep` between neighbours. -/
def joinWith (sep : String) : List String → String
  | [] => ""
  | [s] => s
  | s :: t :: rest => s ++ sep ++ joinWith sep (t :: rest)

/-- Joins texts with a comma and a space between neighbours. -/
def commaJoin (items : List String) : String := joinWith ", " items

/-- Puts `new` in every place, from left to right, where `old` stands. -/
def replace (old new s : String) : String := joinWith new (splitAt old s)

/-- Puts one character in the place of another. -/
def replaceChar (old new : Char) (s : String) : String :=
  String.ofList (s.toList.map fun c => if c = old then new else c)

/-- Whether the text `part` stands somewhere in `s`. -/
def contains (part s : String) : Bool := (cutAt? part s).isSome

/-- What follows `start` in `s`, if `s` begins with it. -/
def dropStart? (start s : String) : Option String :=
  (List.isPrefixOf? start.toList s.toList).map String.ofList

/-- Lines with the line feed that ends each; the last one may lack it. -/
def lineChars : List Char → List (List Char)
  | [] => []
  | c :: cs =>
    if c = '\n' then [c] :: lineChars cs
    else match lineChars cs with
      | [] => [[c]]
      | l :: ls => (c :: l) :: ls

/-- The lines of a text, each with the line feed that ends it. -/
def lines (s : String) : List String := (lineChars s.toList).map String.ofList

/-- Whether a character is one that ends a line. -/
def isLineEnd (c : Char) : Bool := c == '\n' || c == '\r'

/-- Fills a text with spaces at its end up to `width` characters. -/
def padEnd (width : Nat) (s : String) : String :=
  s ++ String.ofList (List.replicate (width - s.length) ' ')

/-- Puts `start` in front of every text. -/
def prefixed (start : String) (items : List String) : List String := items.map (start ++ ·)

theorem splitWhere_ne_nil (p : Char → Bool) (cs : List Char) : splitWhere p cs ≠ [] := by
  cases cs with
  | nil => simp [splitWhere]
  | cons c cs =>
    simp only [splitWhere]
    split
    · simp
    · cases splitWhere p cs <;> simp [consFirst]

end Bindery.Text
