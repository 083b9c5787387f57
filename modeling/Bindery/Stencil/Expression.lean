import Bindery.Stencil.Element
import Bindery.Stencil.Json

/-! # What stands in a tag

References, literals and helpers with their arguments, as they are written. Every reader takes them from the
start of a text and gives the rest; blanks may stand between the parts, and none within a reference or a
name. Of two readings the one that is named first here holds, even if the text after it then has none. -/

namespace Bindery.Stencil

/-- The rest after blanks. -/
def afterGap (cs : List Char) : List Char := Datum.afterBlanks cs

/-- A character of a name. -/
def isNameChar (c : Char) : Bool :=
  c.isAlphanum || c == '_' || c == '-' || c == '$' || c == ':' || c.toNat ≥ 0x80

/-- Whether a name goes on here. -/
def goesOn (cs : List Char) : Bool := cs.head?.any isNameChar

/-- What has been taken of a text of which the rest is given. -/
def taken (cs rest : List Char) : List Char := cs.take (cs.length - rest.length)

/-- A name. -/
def name? (cs : List Char) : Option (String × List Char) :=
  if goesOn cs then some (String.ofList (cs.takeWhile isNameChar), cs.dropWhile isNameChar) else none

/-- The rest after a character that must stand here, possibly after blanks. -/
def after? (c : Char) (cs : List Char) : Option (List Char) :=
  match afterGap cs with
  | d :: rest => if d = c then some rest else none
  | [] => none

/-! ### References -/

/-- What stands between the steps of a reference. -/
def isSeparator (c : Char) : Bool := c == '/' || c == '.'

/-- A step of a reference: a name, or any text in square brackets. -/
def step? : List Char → Option (String × List Char)
  | '[' :: rest => (Text.cutWhere? (· == ']') rest).map fun (n, rest) => (String.ofList n, rest)
  | cs => name? cs

/-- The steps that follow one. -/
def steps : (fuel : Nat) → List Char → List String × List Char
  | fuel + 1, c :: cs =>
    match if isSeparator c then step? cs else none with
    | some (n, rest) => let (ns, rest) := steps fuel rest; (n :: ns, rest)
    | none => ([], c :: cs)
  | _, cs => ([], cs)

/-- How many steps outwards stand here. -/
def outwardSteps : List Char → Nat × List Char
  | '.' :: '.' :: c :: rest =>
    if isSeparator c then let (n, rest) := outwardSteps rest; (n + 1, rest) else (0, '.' :: '.' :: c :: rest)
  | cs => (0, cs)

/-- The rest after the mark of the innermost scope, if it stands here. -/
def afterHere (cs : List Char) : List Char :=
  match List.isPrefixOf? "this".toList cs, cs with
  | some (c :: rest), _ => if isSeparator c then rest else cs
  | _, '.' :: '/' :: rest => rest
  | _, _ => cs

/-- The rest after the mark of the whole of the data, if it stands here. -/
def afterRoot? (cs : List Char) : Option (List Char) :=
  match List.isPrefixOf? "@root".toList cs with
  | some (c :: rest) => if isSeparator c then some rest else none
  | _ => none

/-- A reference. -/
def reference? (cs : List Char) : Option (Reference × List Char) := do
  let here := afterHere cs
  let start := (afterRoot? here).getD here
  let isLoopVariable := start.head? == some '@'
  let (outward, rest) := outwardSteps (if isLoopVariable then start.drop 1 else start)
  let (first, rest) ← step? rest
  let (more, rest) := steps rest.length rest
  return (⟨String.ofList (taken cs rest), (afterRoot? here).isSome, isLoopVariable, outward,
    (first :: more).filter (· ≠ "this")⟩, rest)

/-! ### Literals -/

/-- A text up to the next quote of its kind, with its escapes as they are written, and the rest after it. -/
def quoted? (quote : Char) : List Char → Option (List Char × List Char)
  | [] => none
  | '\\' :: 'u' :: a :: b :: c :: d :: rest =>
    if [a, b, c, d].all fun h => (Decimal.digitOf? 16 h).isSome then
      (quoted? quote rest).map fun (t, rest) => ('\\' :: 'u' :: a :: b :: c :: d :: t, rest)
    else none
  | '\\' :: e :: rest =>
    if e = quote ∨ e = '\\' ∨ (e ≠ '"' ∧ (Datum.escaped? e).isSome) then
      (quoted? quote rest).map fun (t, rest) => ('\\' :: e :: t, rest)
    else none
  | c :: rest =>
    if c = quote then some ([], rest)
    else if c = '\\' then none
    else (quoted? quote rest).map fun (t, rest) => (c :: t, rest)

/-- The rest after a text in quotes of either kind. -/
def afterQuoted? : List Char → Option (List Char)
  | c :: rest => if c = '"' ∨ c = '\'' then (quoted? c rest).map (·.2) else none
  | [] => none

/-- The rest after an exponent, if one stands here. -/
def afterExponent (cs : List Char) : List Char :=
  match cs with
  | 'E' :: rest =>
    let ds := if rest.head? = some '-' then rest.drop 1 else rest
    if ds.head?.any Char.isDigit then ds.dropWhile Char.isDigit else cs
  | _ => cs

/-- The rest after a number. -/
def afterNumber? (cs : List Char) : Option (List Char) :=
  let ds := if cs.head? = some '-' then cs.drop 1 else cs
  if ds.head?.any Char.isDigit then
    let whole := ds.dropWhile Char.isDigit
    let rest := afterExponent ((if whole.head? = some '.' then whole.drop 1 else whole).dropWhile Char.isDigit)
    if goesOn rest then none else some rest
  else none

/-- The rest after one of the words that are literals. -/
def afterLiteralWord? (cs : List Char) : Option (List Char) :=
  ["null", "true", "false"].findSome? fun word =>
    match Datum.afterWord? word cs with
    | some rest => if goesOn rest then none else some rest
    | none => none

mutual
/-- The rest after what has the form of a literal. -/
def afterLiteral? : (fuel : Nat) → List Char → Option (List Char)
  | 0, _ => none
  | fuel + 1, cs =>
    match afterQuoted? cs with
    | some rest => some rest
    | none =>
      match cs with
      | '[' :: rest =>
        after? ']' (afterItems fuel ((afterLiteral? fuel (afterGap rest)).getD rest))
      | '\x7b' :: rest =>
        after? '\x7d' (afterFields fuel ((afterField? fuel rest).getD rest))
      | cs => (afterNumber? cs).or (afterLiteralWord? cs)
/-- The rest after literals of which each follows a comma. -/
def afterItems : (fuel : Nat) → List Char → List Char
  | 0, cs => cs
  | fuel + 1, cs =>
    match (after? ',' cs).bind fun rest => afterLiteral? fuel (afterGap rest) with
    | some rest => afterItems fuel rest
    | none => cs
/-- The rest after a field. -/
def afterField? : (fuel : Nat) → List Char → Option (List Char)
  | 0, _ => none
  | fuel + 1, cs =>
    ((afterQuoted? (afterGap cs)).bind (after? ':')).bind fun rest => afterLiteral? fuel (afterGap rest)
/-- The rest after fields of which each follows a comma. -/
def afterFields : (fuel : Nat) → List Char → List Char
  | 0, cs => cs
  | fuel + 1, cs =>
    match (after? ',' cs).bind (afterField? fuel) with
    | some rest => afterFields fuel rest
    | none => cs
end

/-- The datum that a literal writes. A text in apostrophes is one in quotation marks with an apostrophe
escaped in the place of a quotation mark. -/
def literalDatum? (cs : List Char) : Option Datum :=
  match cs with
  | '\'' :: rest =>
    let inner := String.ofList rest.dropLast
    Datum.ofJson? ("\"" ++ Text.replace "\"" "\\\"" (Text.replace "\\'" "'" inner) ++ "\"")
  | cs => Datum.ofChars? cs

/-! ### Arguments -/

/-- Whether a word stands here that is no argument. -/
def isKeyword (cs : List Char) : Bool :=
  ["as", "else"].any fun word =>
    match Datum.afterWord? word cs with
    | some rest => !goesOn (afterGap rest)
    | none => false

/-- What a helper is given in order and by name. -/
structure Given where
  given : List Argument
  named : List (String × Argument)
deriving Inhabited

namespace Given

/-- Nothing. -/
def nothing : Given := ⟨[], []⟩

/-- Whether anything is given. -/
def isNothing (g : Given) : Bool := g.given.isEmpty && g.named.isEmpty

/-- The helper of a name, given this. -/
def callOf (g : Given) (name : String) : Call := .mk name g.given g.named

end Given

/-- The name before an equals sign, and the rest after it. -/
def argumentName? (cs : List Char) : Option (String × List Char) :=
  (name? cs).bind fun (n, rest) => (after? '=' rest).map fun rest => (n, rest)

mutual
/-- An argument: a literal, a reference, or the result of a helper in parentheses. What has the form of a
literal is nothing else. -/
def argument? : (fuel : Nat) → List Char → Option (Argument × List Char)
  | 0, _ => none
  | fuel + 1, cs =>
    if isKeyword cs then none
    else
      match afterLiteral? (cs.length + 1) cs with
      | some rest => (literalDatum? (taken cs rest)).map fun d => (.datum d, rest)
      | none =>
        match reference? cs with
        | some (r, rest) => some (.reference r, rest)
        | none => (nested? fuel cs).map fun (c, rest) => (.call c, rest)
/-- A helper in parentheses. -/
def nested? : (fuel : Nat) → List Char → Option (Call × List Char)
  | 0, _ => none
  | fuel + 1, cs =>
    match cs with
    | '(' :: rest =>
      let start := afterGap rest
      match call? fuel start with
      | some (c, rest) => (after? ')' rest).map fun rest => (c, rest)
      | none =>
        match reference? start with
        | some (r, rest) => (after? ')' rest).map fun rest => (Given.nothing.callOf r.written, rest)
        | none => none
    | _ => none
/-- A helper with at least one argument. -/
def call? : (fuel : Nat) → List Char → Option (Call × List Char)
  | 0, _ => none
  | fuel + 1, cs =>
    match name? cs with
    | some (n, rest) =>
      let (g, rest) := arguments fuel rest
      if g.isNothing then none else some (g.callOf n, rest)
    | none => none
/-- All arguments that stand here. -/
def arguments : (fuel : Nat) → List Char → Given × List Char
  | 0, cs => (.nothing, cs)
  | fuel + 1, cs =>
    let start := afterGap cs
    let named := (argumentName? start).bind fun (n, rest) =>
      (argument? fuel (afterGap rest)).map fun (a, rest) => (n, a, rest)
    match named with
    | some (n, a, rest) =>
      let (g, rest) := arguments fuel rest
      (⟨g.given, (n, a) :: g.named⟩, rest)
    | none =>
      match argument? fuel start with
      | some (a, rest) =>
        let (g, rest) := arguments fuel rest
        (⟨a :: g.given, g.named⟩, rest)
      | none => (.nothing, cs)
end

/-- More steps than the readers of arguments take on a text. -/
def enough (cs : List Char) : Nat := 3 * cs.length + 3

/-- The names that a block gives, if any stand here. -/
def binders? (cs : List Char) : Option (Binders × List Char) := do
  let rest ← Datum.afterWord? "as" (afterGap cs)
  let rest ← after? '|' rest
  let (item, rest) ← name? (afterGap rest)
  match name? (afterGap rest) with
  | some (key, rest) => (after? '|' rest).map fun rest => (.two item key, rest)
  | none => (after? '|' rest).map fun rest => (.one item, rest)

/-- A helper, with or without arguments, and the names that its block gives. -/
def blockCall? (cs : List Char) : Option (Call × Binders × List Char) :=
  (name? cs).map fun (n, rest) =>
    let (g, rest) := arguments (enough rest) rest
    match binders? rest with
    | some (b, rest) => (g.callOf n, b, rest)
    | none => (g.callOf n, .none, rest)

/-- What is shown without a helper: a datum by reference, or the result of a helper in parentheses. -/
def subject? (cs : List Char) : Option (Subject × List Char) :=
  match nested? (enough cs) cs with
  | some (c, rest) => some (.call c, rest)
  | none => (reference? cs).map fun (r, rest) => (.reference r, rest)

/-- A character of the name of a stencil. -/
def isStencilNameChar (c : Char) : Bool :=
  c.isAlphanum || c == '_' || c == '-' || c == '/' || c == '.' || c == '@' || c.toNat ≥ 0x80

/-- The name of a stencil that is included: a name with slashes, a text in apostrophes, or a subject. -/
def target? (cs : List Char) : Option (Subject × List Char) :=
  let plain := cs.takeWhile isStencilNameChar
  if plain ≠ [] then some (.name (String.ofList plain), cs.drop plain.length)
  else
    match cs with
    | '\'' :: rest =>
      match Text.cutWhere? (· == '\'') rest with
      | some (n, after) => if n = [] then none else some (.name (String.ofList ('\'' :: n ++ ['\''])), after)
      | none => none
    | cs => subject? cs

end Bindery.Stencil
