import Bindery.Stencil.Layout

/-! # Reading a stencil

Blocks are nested by their tags: every block is closed by a tag of its name, or without a name if it is a
rule. A block of a helper may have other conditions, the last of which may be unconditional; they are nested
in what is shown otherwise. -/

namespace Bindery.Stencil

/-- A condition of a block: a helper with the names that its block gives. -/
abbrev Condition := Call × Binders

/-- A block that has not been closed yet. Elements are listed from the last to the first. -/
structure Unclosed where
  opening : Opening
  /-- The earlier conditions with what is shown on them, from the last to the first. -/
  earlier : List (Condition × List Element)
  /-- The condition of what is read now; none after the last one. -/
  condition : Option Condition
  elements : List Element
deriving Inhabited

/-- The condition with which a block opens. -/
def Opening.condition : Opening → Option Condition
  | .block c b | .verbatim c b => some (c, b)
  | .rule _ | .inclusion _ _ => none

/-- The name by which a block is closed, if it has one. -/
def Opening.name : Opening → Option String
  | .block c _ | .verbatim c _ | .rule c => some c.name
  | .inclusion (.name s) _ => some s
  | .inclusion (.reference r) _ => some r.written
  | .inclusion (.call _) _ => none

/-- Whether a block is closed by a name, or by none. -/
def Opening.isClosedBy (o : Opening) : Option String → Bool
  | some name => o.name == some name
  | none =>
    match o with
    | .rule _ => true
    | _ => false

/-- A block that has just been opened. -/
def Unclosed.ofOpening (o : Opening) : Unclosed := ⟨o, [], o.condition, []⟩

namespace Unclosed

/-- What is shown on the last condition and otherwise. -/
def last (u : Unclosed) : Option (List Element) :=
  match u.condition with
  | some (c, b) => some [.block c b u.elements.reverse none]
  | none => some u.elements.reverse

/-- What is shown otherwise, of which the part for the later conditions is given. -/
def nest (otherwise : Option (List Element)) : List (Condition × List Element) → Option (List Element)
  | [] => otherwise
  | ((c, b), body) :: earlier => nest (some [.block c b body otherwise]) earlier

/-- The element of a block that is closed. -/
def close (u : Unclosed) : List Element :=
  match u.opening with
  | .block _ _ | .verbatim _ _ => (nest u.last u.earlier).getD []
  | .rule c => [.rule c (some u.elements.reverse)]
  | .inclusion t g => [.inclusion t g.given g.named .none (some u.elements.reverse)]

/-- Begins the other condition of a block, unless its last one has begun. -/
def otherwise? (u : Unclosed) (next : Option Condition) : Option Unclosed :=
  u.condition.map fun c => ⟨u.opening, (c, u.elements.reverse) :: u.earlier, next, []⟩

end Unclosed

/-- What has been read: the outermost elements, from the last to the first, and the blocks that are not
closed, from the innermost outwards. -/
structure Reading where
  elements : List Element
  blocks : List Unclosed
deriving Inhabited

namespace Reading

/-- Puts elements at the end of the innermost block. -/
def add (r : Reading) (es : List Element) : Reading :=
  match r.blocks with
  | [] => { r with elements := es.reverse ++ r.elements }
  | b :: bs => { r with blocks := { b with elements := es.reverse ++ b.elements } :: bs }

/-- Closes the innermost block by a name, or by none. -/
def close? (r : Reading) (name : Option String) : Option Reading :=
  match r.blocks with
  | [] => none
  | b :: bs => if b.opening.isClosedBy name then some ({ r with blocks := bs }.add b.close) else none

/-- Begins the other condition of the innermost block. -/
def otherwise? (r : Reading) (next : Option Condition) : Option Reading :=
  match r.blocks with
  | [] => none
  | b :: bs => (b.otherwise? next).map fun b => { r with blocks := b :: bs }

/-- Takes in a token. -/
def take? (r : Reading) : Token → Option Reading
  | .text s => some (r.add [.text s])
  | .tag d margin =>
    match d with
    | .comment => some (r.add [.comment])
    | .shows e => some (r.add [e])
    | .rule c => some (r.add [.rule c none])
    | .inclusion t g => some (r.add [.inclusion t g.given g.named margin none])
    | .opens o => some { r with blocks := .ofOpening o :: r.blocks }
    | .otherwise next => r.otherwise? next
    | .closes name => r.close? name

end Reading

/-- The stencil of tokens in which every block is closed. -/
def ofTokens? (ts : List Token) : Option Stencil :=
  match ts.foldlM Reading.take? ⟨[], []⟩ with
  | some ⟨elements, []⟩ => some elements.reverse
  | _ => none

/-- The stencil that a text writes. -/
def ofText? (s : String) : Option Stencil :=
  (lexemes? s.toList).bind fun ls => ofTokens? (Token.ofLexemes ⟨false, false⟩ ls)

/-- The stencil that a text writes; anything else is refused. -/
def ofText (s : String) : Except Error Stencil :=
  match ofText? s with
  | some stencil => .ok stencil
  | none => .error (.skeleton "malformed tags")

end Bindery.Stencil
