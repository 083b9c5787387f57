import Bindery.Stencil.Element
import Bindery.Text.Pieces

/-! # What has been shown

The texts of a stencil are written one after the other. The lines of an included stencil are indented; a text
may begin within a line, so it is remembered whether the last one ended with a line end. -/

namespace Bindery.Stencil

/-- What has been written so far. -/
structure Output where
  /-- The texts from the last to the first. -/
  texts : List String
  /-- Whether the next text begins a line that is to be indented. -/
  indentsNext : Bool
  /-- Whether the innermost included stencil has written a text with its lines indented. -/
  hasLines : Bool
deriving Repr, Inhabited

namespace Output

/-- Nothing. -/
def empty : Output := ⟨[], false, false⟩

/-- All texts in order. -/
def text (o : Output) : String := String.join o.texts.reverse

/-- A text in which every line feed but one at its end is followed by an indentation. -/
def indentAfterLines (indent : List Char) : List Char → List Char
  | [] => []
  | ['\n'] => ['\n']
  | c :: cs => if c = '\n' then c :: (indent ++ indentAfterLines indent cs) else c :: indentAfterLines indent cs

/-- Writes a text with its lines indented. A line end at its start leaves the line before it empty. -/
def writeLines (o : Output) (indent s : String) : Output :=
  match s.toList with
  | [] => o
  | c :: cs =>
    let lines := if indent = "" then s else String.ofList (indentAfterLines indent.toList (c :: cs))
    let lines := if o.indentsNext && !Text.isLineEnd c then indent ++ lines else lines
    ⟨lines :: o.texts, (c :: cs).getLast?.any Text.isLineEnd, true⟩

/-- Writes a word as it is. -/
def writeWord (o : Output) (s : String) : Output := { o with texts := s :: o.texts }

/-- The output at the start of an included stencil. -/
def enter (o : Output) (m : Margin) : Output :=
  ⟨o.texts, o.indentsNext || (m.first && m.indent ≠ ""), false⟩

/-- The output after an included stencil, which has written `inner`. If no lines are among it, the next text
begins as it would have before. -/
def leave (o inner : Output) : Output :=
  if inner.hasLines then inner else { o with texts := inner.texts }

end Output
end Bindery.Stencil
