import Bindery.Stencil.Tag

/-! # The written form as text and tags

The written form is cut into text and tags. Text runs up to the next double brace; a backslash before a
double brace makes it plain text, and a backslash before a backslash that stands before a double brace is
plain itself. Blanks alone between two tags are a gap. The body of a verbatim block is text up to a fourfold
brace, without the blanks at its start. -/

namespace Bindery.Stencil

/-- What stands around a tag. -/
structure Place where
  /-- Whether nothing but spaces and tabs stands before the tag in its line. -/
  isFirst : Bool
  /-- Whether nothing but spaces and tabs stands after the tag in its line, or nothing at all after it. -/
  isLast : Bool
  /-- The spaces and tabs right before the tag. -/
  indent : String
deriving Repr, DecidableEq, Inhabited

/-- A part of the written form. -/
inductive Lexeme where
  /-- Blanks between two tags, or after the last one. -/
  | gap (cs : List Char)
  | text (cs : List Char)
  | tag (t : Tag) (p : Place)
deriving Inhabited

/-- Whether the characters before (the last one first) leave a line blank so far. -/
def isLineStart (before : List Char) : Bool :=
  match before.dropWhile Text.isIndent with
  | [] => true
  | c :: _ => Text.isLineEnd c

/-- Whether the characters after leave the rest of a line blank. -/
def isLineRest (after : List Char) : Bool :=
  after.isEmpty || (after.dropWhile Text.isIndent).head?.any Text.isLineEnd

/-- The place between what comes before (the last character first) and what comes after. -/
def Place.between (before after : List Char) : Place :=
  ⟨isLineStart before, isLineRest after, String.ofList (before.takeWhile Text.isIndent).reverse⟩

/-! ### Text -/

/-- How many characters after a backslash it makes plain. -/
def escapedLength? (rest : List Char) : Option Nat :=
  let slashes := rest.takeWhile (· == '\\')
  let opens (cs : List Char) : Bool := Tag.opening.toList.isPrefixOf cs
  if slashes ≠ [] then if opens (rest.drop slashes.length) then some slashes.length else none
  else if opens rest then some (if opens (rest.drop 2) then 4 else 2)
  else none

/-- The text up to `stop`, without the backslashes that make something plain, and the rest; the first `plain`
characters have been made plain. -/
def textUpTo (stop : List Char) : (plain : Nat) → List Char → List Char × List Char
  | _, [] => ([], [])
  | plain + 1, c :: cs =>
    let (t, rest) := textUpTo stop plain cs
    (c :: t, rest)
  | 0, c :: cs =>
    if stop.isPrefixOf (c :: cs) then ([], c :: cs)
    else
      match if c = '\\' then escapedLength? cs else none with
      | some n => textUpTo stop n cs
      | none =>
        let (t, rest) := textUpTo stop 0 cs
        (c :: t, rest)

/-- A lexeme of text. Blanks are a gap unless they begin the written form. -/
def Lexeme.ofText (before written cs : List Char) : List Lexeme :=
  if written = [] then []
  else if before ≠ [] ∧ written.all Datum.isJsonBlank then [.gap cs]
  else [.text cs]

/-! ### Text and tags -/

/-- The characters before a rest, the last one first. -/
def passed (before cs rest : List Char) : List Char := (taken cs rest).reverse ++ before

/-- A tag with its place, which is read by `tag?`, and what follows it. -/
def placed? (tag? : List Char → Option (Tag × List Char)) (before cs : List Char) :
    Option (Tag × Place × List Char) :=
  (tag? cs).map fun (t, rest) => (t, .between before rest, rest)

/-- The body of a verbatim block and the tag that closes it, and the rest. -/
def verbatim? (before cs : List Char) : Option (List Lexeme × List Char) :=
  let (body, rest) := textUpTo Tag.verbatimOpening.toList 0 (afterGap cs)
  (placed? Tag.verbatimEnd? (passed before cs rest) rest).map fun (t, p, after) => ([.text body, .tag t p], after)

/-- A tag, together with the body and the end of a verbatim block that it opens, and the rest. -/
def tagLexemes? (before cs : List Char) : Option (List Lexeme × List Char) :=
  match placed? Tag.atStart? before cs with
  | none => none
  | some (t, p, rest) =>
    match t.deed with
    | .opens (.verbatim _ _) =>
      (verbatim? (passed before cs rest) rest).map fun (ls, rest) => (.tag t p :: ls, rest)
    | _ => some ([.tag t p], rest)

/-- The lexemes of the rest of a written form, of which the characters before are given, the last one
first. -/
def lexemesFrom? : (fuel : Nat) → (before cs : List Char) → Option (List Lexeme)
  | 0, _, _ => none
  | fuel + 1, before, cs =>
    let (t, rest) := textUpTo Tag.opening.toList 0 cs
    let text := Lexeme.ofText before (taken cs rest) t
    if rest = [] then some text
    else
      let before := passed before cs rest
      match tagLexemes? before rest with
      | none => none
      | some (tag, after) =>
        (lexemesFrom? fuel (passed before rest after) after).map fun more => text ++ tag ++ more

/-- The lexemes of a written form. -/
def lexemes? (cs : List Char) : Option (List Lexeme) := lexemesFrom? (cs.length + 1) [] cs

end Bindery.Stencil
