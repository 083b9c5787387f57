import Bindery.Entries
import Bindery.Error

/-! # Skeletons

A skeleton is the fixed text of a larger piece of generated code with holes for what varies. Every hole must
be given a text, and the texts are put in as they are. -/

namespace Bindery.Template

/-- A part of a skeleton. -/
inductive Part where
  /-- A text that stands for itself. -/
  | fixed (s : String)
  /-- A hole. -/
  | hole (name : String)
deriving Repr, DecidableEq, Inhabited

/-- Fixed text with holes. -/
abbrev Skeleton := List Part

namespace Skeleton

/-- What a part becomes. -/
def fillPart (fields : Entries String) : Part → Except Error String
  | .fixed s => .ok s
  | .hole name =>
    match Entries.get? fields name with
    | some s => .ok s
    | none => .error (.skeleton s!"no text for the hole '{name}'")

/-- Puts texts into the holes. -/
def fill (fields : Entries String) : Skeleton → Except Error String
  | [] => .ok ""
  | p :: ps =>
    match fillPart fields p with
    | .error e => .error e
    | .ok s => (fill fields ps).map (s ++ ·)

end Skeleton
end Bindery.Template
