import Bindery.Stencil.Lexeme

/-! # Blanks around tags

A tag that stands alone in its line takes the line with it: what indents the tag is dropped, and so is the
line end after it. A tag that shows something does not stand alone in this sense. The lines of a stencil that
is included without a body are indented like the tag. A tilde drops all blanks on its side of a tag. -/

namespace Bindery.Stencil

/-- A text or a tag after the blanks have been settled. -/
inductive Token where
  | text (s : String)
  /-- A tag, with the margin of what it includes. -/
  | tag (d : Deed) (margin : Margin)
deriving Inhabited

/-- What is dropped at the start of the next text. -/
structure Pending where
  /-- All blanks. -/
  blanks : Bool
  /-- The rest of the line, if it is blank. -/
  line : Bool
deriving Repr, DecidableEq, Inhabited

/-- A text without the line end at its start. -/
def dropLineEnd : List Char → List Char
  | '\r' :: '\n' :: rest => rest
  | '\n' :: rest => rest
  | cs => cs

/-- A text without what is dropped at its start. -/
def Pending.drop (p : Pending) (cs : List Char) : List Char :=
  if p.blanks then cs.dropWhile Text.isBlank
  else if p.line then dropLineEnd (cs.dropWhile Text.isIndent)
  else cs

namespace Tag

/-- Whether a tag may stand alone in its line. -/
def mayStandAlone (t : Tag) : Bool :=
  match t.deed with
  | .shows _ => false
  | _ => true

/-- Whether a tag stands alone in its line. -/
def standsAlone (t : Tag) (p : Place) : Bool := t.mayStandAlone && p.isFirst && p.isLast

/-- A text before a tag without what is dropped at its end. -/
def dropBefore (t : Tag) (p : Place) (cs : List Char) : List Char :=
  let cs := if t.dropsBefore then Text.dropEndWhile Text.isBlank cs else cs
  if t.standsAlone p then Text.dropEndWhile Text.isIndent cs else cs

/-- What is dropped after a tag. A comment leaves what all blanks await, and a tag that shows something leaves
what the rest of the line awaits. -/
def pending (t : Tag) (p : Place) (before : Pending) : Pending where
  blanks := match t.deed with
    | .comment => before.blanks
    | _ => t.dropsAfter
  line := if t.mayStandAlone then t.standsAlone p else before.line

/-- The margin of the stencil that a tag includes, if it includes one; there is none after a tilde. -/
def margin (t : Tag) (p : Place) : Margin :=
  match t.deed with
  | .inclusion _ _ => if t.dropsBefore then .none else ⟨p.indent, t.standsAlone p⟩
  | _ => .none

end Tag

/-- A text without what the next lexeme drops at its end. -/
def dropBeforeNext (rest : List Lexeme) (cs : List Char) : List Char :=
  match rest with
  | .tag t p :: _ => t.dropBefore p cs
  | _ => cs

/-- The tokens of lexemes, of which the first ones await that something is dropped. A gap of which all blanks
are dropped is passed over. -/
def Token.ofLexemes : Pending → List Lexeme → List Token
  | _, [] => []
  | p, .gap cs :: rest =>
    if p.blanks then ofLexemes p rest
    else .text (String.ofList (dropBeforeNext rest (p.drop cs))) :: ofLexemes { p with line := false } rest
  | p, .text cs :: rest =>
    .text (String.ofList (dropBeforeNext rest (p.drop cs))) :: ofLexemes { p with line := false } rest
  | p, .tag t place :: rest => .tag t.deed (t.margin place) :: ofLexemes (t.pending place p) rest

end Bindery.Stencil
