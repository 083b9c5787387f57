import Bindery.Stencil.Expression

/-! # Tags

A tag stands in double braces, or in more of them. A tilde inside of the braces drops the blanks of the text
on its side. -/

namespace Bindery.Stencil

/-- What opens a block. -/
inductive Opening where
  /-- A block of a helper. -/
  | block (c : Call) (binders : Binders)
  /-- A block of a helper whose body is shown as it is written. -/
  | verbatim (c : Call) (binders : Binders)
  /-- A rule with a body. -/
  | rule (c : Call)
  /-- An included stencil with a body. -/
  | inclusion (target : Subject) (g : Given)
deriving Inhabited

/-- What a tag does. -/
inductive Deed where
  | comment
  /-- Shows something here. -/
  | shows (e : Element)
  | rule (c : Call)
  | inclusion (target : Subject) (g : Given)
  | opens (o : Opening)
  /-- Begins what is shown on the other condition, possibly on a further one. -/
  | otherwise (next : Option (Call × Binders))
  /-- Closes a block, possibly by its name. -/
  | closes (name : Option String)
deriving Inhabited

/-- A tag. -/
structure Tag where
  deed : Deed
  /-- Whether the blanks before the tag are dropped. -/
  dropsBefore : Bool
  /-- Whether the blanks after the tag are dropped. -/
  dropsAfter : Bool
deriving Inhabited

namespace Tag

/-- The start of a tag. -/
def opening : String := "\x7b\x7b"

/-- The end of a tag. -/
def closing : String := "\x7d\x7d"

/-- The start of a tag that shows text without escapes. -/
def plainOpening : String := "\x7b\x7b\x7b"

/-- The end of a tag that shows text without escapes. -/
def plainClosing : String := "\x7d\x7d\x7d"

/-- The start of a tag of a verbatim block. -/
def verbatimOpening : String := "\x7b\x7b\x7b\x7b"

/-- The end of a tag of a verbatim block. -/
def verbatimClosing : String := "\x7d\x7d\x7d\x7d"

/-- The rest after a tilde, if one stands here. -/
def afterTilde (cs : List Char) : List Char := (after? '~' cs).getD cs

/-- Whether a tilde stands here. -/
def hasTilde (cs : List Char) : Bool := (after? '~' cs).isSome

/-- A tag between an opening and a closing: after an optional tilde stand signs, then what `deed?` reads,
then closing signs and another optional tilde. -/
def framed? (opening closing : String) (signs closingSigns : List Char)
    (deed? : List Char → Option (Deed × List Char)) (cs : List Char) : Option (Tag × List Char) := do
  let start ← Datum.afterWord? opening cs
  let rest ← signs.foldlM (fun rest c => after? c rest) (afterTilde start)
  let (deed, rest) ← deed? (afterGap rest)
  let rest ← closingSigns.foldlM (fun rest c => after? c rest) rest
  let after ← Datum.afterWord? closing (afterGap (afterTilde rest))
  return (⟨deed, hasTilde start, hasTilde rest⟩, after)

/-! ### What stands between the braces -/

/-- A helper with arguments, or a subject. -/
def shown? (cs : List Char) : Option (Deed × List Char) :=
  match call? (enough cs) cs with
  | some (c, rest) => some (.shows (.call c), rest)
  | none => (subject? cs).map fun (s, rest) => (.shows (.subject s), rest)

/-- A subject. -/
def shownSubject? (cs : List Char) : Option (Deed × List Char) :=
  (subject? cs).map fun (s, rest) => (.shows (.subject s), rest)

/-- What begins the other condition. A further condition may follow the word without a blank. -/
def otherwise? (cs : List Char) : Option (Deed × List Char) := do
  let rest ← Datum.afterWord? "else" cs <|> Datum.afterWord? "^" cs
  match blockCall? (afterGap rest) with
  | some (c, b, rest) => return (.otherwise (some (c, b)), rest)
  | none => return (.otherwise none, rest)

/-- The opening of a block of a helper. -/
def opensBlock? (cs : List Char) : Option (Deed × List Char) :=
  (blockCall? cs).map fun (c, b, rest) => (.opens (.block c b), rest)

/-- The opening of a verbatim block. -/
def opensVerbatim? (cs : List Char) : Option (Deed × List Char) :=
  (blockCall? cs).map fun (c, b, rest) => (.opens (.verbatim c b), rest)

/-- A rule. -/
def rule? (cs : List Char) : Option (Deed × List Char) :=
  (blockCall? cs).map fun (c, _, rest) => (.rule c, rest)

/-- The opening of a rule with a body. -/
def opensRule? (cs : List Char) : Option (Deed × List Char) :=
  (blockCall? cs).map fun (c, _, rest) => (.opens (.rule c), rest)

/-- What is included, with its arguments. -/
def included? (cs : List Char) : Option ((Subject × Given) × List Char) :=
  (target? cs).map fun (t, rest) =>
    let (g, rest) := arguments (enough rest) rest
    ((t, g), rest)

/-- An included stencil. -/
def inclusion? (cs : List Char) : Option (Deed × List Char) :=
  (included? cs).map fun ((t, g), rest) => (.inclusion t g, rest)

/-- The opening of an included stencil with a body. -/
def opensInclusion? (cs : List Char) : Option (Deed × List Char) :=
  (included? cs).map fun ((t, g), rest) => (.opens (.inclusion t g), rest)

/-- The end of a block of a helper or of a rule. -/
def closes? (cs : List Char) : Option (Deed × List Char) :=
  (name? cs).map fun (n, rest) => (.closes (some n), rest)

/-- The end of an included stencil. -/
def closesInclusion? (cs : List Char) : Option (Deed × List Char) :=
  (target? cs).map fun (_, rest) => (.closes (some (String.ofList (taken cs rest))), rest)

/-- The end of a block without its name. -/
def closesNameless? (cs : List Char) : Option (Deed × List Char) := some (.closes none, cs)

/-- The rest after a comment. Two dashes at its start stand at its end as well, so that it may hold tags. -/
def afterComment? (cs : List Char) : Option (List Char) := do
  let start ← Datum.afterWord? (opening ++ "!") cs
  let long := (Datum.afterWord? "--" (afterGap start)).bind (Text.cutAtChars? ("--" ++ closing).toList)
  (long <|> Text.cutAtChars? closing.toList start).map (·.2)

/-- A comment. -/
def comment? (cs : List Char) : Option (Tag × List Char) :=
  (afterComment? cs).map fun rest => (⟨.comment, false, false⟩, rest)

/-- A tag at the start of a text, and the rest. -/
def atStart? (cs : List Char) : Option (Tag × List Char) :=
  let readers : List (List Char → Option (Tag × List Char)) := [
    framed? opening closing [] [] otherwise?,
    framed? opening closing [] [] shown?,
    framed? plainOpening plainClosing [] [] shown?,
    framed? opening closing ['\x7b'] ['\x7d'] shown?,
    framed? opening closing ['&'] [] shownSubject?,
    framed? opening closing ['#'] [] opensBlock?,
    framed? verbatimOpening verbatimClosing [] [] opensVerbatim?,
    comment?,
    framed? opening closing ['*'] [] rule?,
    framed? opening closing ['#', '*'] [] opensRule?,
    framed? opening closing ['>'] [] inclusion?,
    framed? opening closing ['#', '>'] [] opensInclusion?,
    framed? opening closing ['/'] [] closes?,
    framed? opening closing ['/'] [] closesInclusion?,
    framed? opening closing ['/'] [] closesNameless?]
  readers.findSome? (· cs)

/-- The tag that closes a verbatim block at the start of a text, and the rest. -/
def verbatimEnd? (cs : List Char) : Option (Tag × List Char) :=
  framed? verbatimOpening verbatimClosing ['/'] [] closes? cs

end Tag
end Bindery.Stencil
