import Bindery.Text.Quoted
import Bindery.Text.Pieces

/-! # Tokens of the outline format

An outline is a text whose nesting is shown by indentation. Its tokens are the keys of a line, a text, and
the beginning and end of a block. -/

namespace Bindery.Outline

/-- A token of an outline. -/
inductive Token where
  /-- A block begins. -/
  | indent
  /-- The innermost block ends. -/
  | dedent
  /-- The keys of one line; they share the value or the block that follows. -/
  | key (keys : List String)
  /-- A text. -/
  | text (s : String)
deriving Repr, DecidableEq, Inhabited

/-- A token as messages show it. -/
def Token.show : Token → String
  | indent => "INDENT"
  | dedent => "DEDENT"
  | key keys => "KEY(" ++ Text.commaJoin keys ++ ")"
  | text s => "TEXT(" ++ Text.quoted s ++ ")"

end Bindery.Outline
