import Bindery.Entries
import Bindery.Error
import Bindery.Text.Pieces

/-! # Blocks

A target that works by blocks copies its inputs line by line. A line that is nothing but a marker, such as
`%STIMULUS%` or `%STIMULUS:extra%`, gives way to the text of the block that it names. A registry says what
renders a block, and a cache keeps the blocks that have been rendered. -/

namespace Bindery

/-- The name of a block. -/
structure BlockName where
  text : String
deriving Repr, DecidableEq, Inhabited

namespace BlockName

/-- The block of all functions. -/
def functions : BlockName := ⟨"functions"⟩

/-- The block that a text names; an empty one names the block of all functions. -/
def ofText (s : String) : BlockName := if s = "" then functions else ⟨s⟩

end BlockName

/-- A recogniser of marker lines. -/
structure Marker where
  /-- The word with which a marker begins. -/
  sigil : String
deriving Repr, DecidableEq, Inhabited

namespace Marker

/-- The markers with a sigil. -/
def ofSigil (sigil : String) : Except Error Marker :=
  if Text.isBlankText sigil then .error (.config "block sigil must not be empty") else .ok ⟨sigil⟩

/-- A character that may stand in the name of a block. -/
def isNameChar (c : Char) : Bool := c.isAlphanum || c == '_' || c == '-'

/-- The block that a marker names, where the characters after the sigil are given. -/
def blockAfter? : List Char → Option BlockName
  | ['%'] => some .functions
  | ':' :: rest =>
    if rest.getLast? = some '%' ∧ rest.dropLast.all isNameChar then
      some (.ofText (String.ofList rest.dropLast))
    else none
  | _ => none

/-- The block that a line names, if it is nothing but a marker and blanks. -/
def block? (m : Marker) (line : String) : Option BlockName :=
  (List.isPrefixOf? ('%' :: m.sigil.toList) (Text.trimChars line.toList)).bind blockAfter?

end Marker

/-- What renders the blocks of each name. -/
structure Registry (β : Type) where
  handlers : Entries β

namespace Registry

variable {β : Type}

/-- The registry without handlers. -/
def empty : Registry β := ⟨[]⟩

/-- Registers a handler, in the place of the one that the block had. -/
def register (r : Registry β) (block : BlockName) (handler : β) : Registry β :=
  ⟨Entries.set r.handlers block.text handler⟩

/-- Whether a block has a handler. -/
def has (r : Registry β) (block : BlockName) : Bool := Entries.has r.handlers block.text

/-- The handler of a block. -/
def handler (r : Registry β) (block : BlockName) : Except Error β :=
  match Entries.get? r.handlers block.text with
  | some h => .ok h
  | none => .error (.unhandledBlock block.text)

end Registry

/-- The texts of the blocks that have been rendered. -/
structure BlockCache where
  texts : Entries String
deriving Repr, DecidableEq, Inhabited

namespace BlockCache

/-- The cache of a run in which no block has been rendered. -/
def empty : BlockCache := ⟨[]⟩

/-- How many blocks have been rendered. -/
def size (c : BlockCache) : Nat := c.texts.length

/-- The text of a block, which is rendered unless the cache has it; a failure is not kept. -/
def getOrRender {m : Type → Type} [Monad m] (c : BlockCache) (block : BlockName) (render : m String) :
    m (String × BlockCache) :=
  match Entries.get? c.texts block.text with
  | some text => pure (text, c)
  | none => do
    let text ← render
    pure (text, ⟨Entries.set c.texts block.text text⟩)

end BlockCache
end Bindery
