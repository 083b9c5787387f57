import Bindery.Yaml.Chars
import Bindery.Yaml.Scalar

/-! # Writing YAML

Mappings and sequences are written as blocks, two columns deeper each, but a sequence stands at the column
of the key it belongs to. Empty collections are written as a pair of brackets. A string is written plain
where that reads back as the string, and otherwise in quotes, or as a block if it has several lines. -/

namespace Bindery.Yaml

/-- How a scalar is written. -/
inductive Form where
  | plain
  | single
  | double
  | literal
deriving Repr, DecidableEq, Inhabited

/-- The pen: what is written so far, the column, whether a blank was written last, and whether only
indentation stands on the line. -/
structure Pen where
  written : List (List Char)
  column : Nat
  blank : Bool
  indented : Bool
deriving Inhabited

namespace Pen

/-- A pen that has written nothing. -/
def start : Pen := ⟨[], 0, true, true⟩

/-- The text that was written. -/
def text (p : Pen) : String := String.ofList p.written.reverse.flatten

/-- Writes characters of which none breaks a line. -/
def put (p : Pen) (cs : List Char) : Pen :=
  { p with written := cs :: p.written, column := p.column + cs.length }

/-- Writes a line break. -/
def putBreak (p : Pen) (c : Char) : Pen := { p with written := [c] :: p.written, column := 0 }

/-- Goes to a column of a line on which only indentation stands. -/
def indentTo (p : Pen) (column : Nat) : Pen :=
  let p := if !p.indented || column < p.column || (p.column == column && !p.blank) then p.putBreak '\n'
    else p
  { p.put (List.replicate (column - p.column) ' ') with blank := true, indented := true }

/-- Writes an indicator. A blank goes before it if needed; `blank` and `indented` say whether it counts as
blank and as indentation. -/
def indicator (p : Pen) (cs : List Char) (needsBlank blank indented : Bool) : Pen :=
  let p := if needsBlank && !p.blank then p.put [' '] else p
  { p.put cs with blank := blank, indented := p.indented && indented }

end Pen

/-! ### Choosing a form -/

/-- A character that is written as itself between double quotes and elsewhere. -/
def isPlainChar (c : Char) : Bool :=
  let n := c.toNat
  n == 10 || (0x20 ≤ n && n ≤ 0x7E) || (0xA0 ≤ n && n ≤ 0xD7FF) ||
    (0xE000 ≤ n && n ≤ 0xFFFD && n != 0xFEFF) || 0x10000 ≤ n

/-- What matters for the forms in which a text can be written. -/
structure Shape where
  /-- It has an indicator that a plain scalar must not have. -/
  hasIndicator : Bool
  hasBreak : Bool
  /-- It has a character that only double quotes can show. -/
  hasSpecial : Bool
  leadingBlank : Bool
  trailingBlank : Bool
  trailingSpace : Bool
  /-- A space follows a line break. -/
  breakSpace : Bool
  /-- A line break follows a space. -/
  spaceBreak : Bool

/-- Whether a character in the middle of a text is an indicator there: `before` is the character before. -/
def indicatorWithin (before c : Char) (after : List Char) : Bool :=
  (c == ':' && endsWord after) || (c == '#' && (isSpaceOrTab before || isBreak before))

/-- Whether a text has an indicator after its first character. -/
def anyIndicator : Char → List Char → Bool
  | _, [] => false
  | before, c :: cs => indicatorWithin before c cs || anyIndicator c cs

/-- Whether a text begins with an indicator. -/
def beginsWithIndicator : List Char → Bool
  | [] => false
  | c :: cs =>
    "#,[]\x7b\x7d&*!|>'\"%@\x60".toList.contains c || ((c == '?' || c == ':' || c == '-') && endsWord cs)

/-- Whether two characters that satisfy `p` and `q` stand next to each other. -/
def anyPair (p q : Char → Bool) : List Char → Bool
  | a :: b :: rest => (p a && q b) || anyPair p q (b :: rest)
  | _ => false

/-- The shape of a text that is not empty. -/
def shape (cs : List Char) : Shape :=
  let isSpace (c : Char) : Bool := c == ' '
  { hasIndicator := (match cs with
      | '-' :: '-' :: '-' :: _ | '.' :: '.' :: '.' :: _ => true
      | _ => false) || beginsWithIndicator cs ||
        (match cs with
          | c :: rest => anyIndicator c rest
          | [] => false)
    hasBreak := cs.any isBreak
    hasSpecial := cs.any (!isPlainChar ·)
    leadingBlank := cs.head?.any fun c => isSpace c || isBreak c
    trailingBlank := cs.getLast?.any fun c => isSpace c || isBreak c
    trailingSpace := cs.getLast?.any isSpace
    breakSpace := anyPair isBreak isSpace cs
    spaceBreak := anyPair isSpace isBreak cs }

/-- The form asked for: a text of several lines is a block, and one that would be read as something other
than a string is quoted. -/
def wantedForm (s : String) : Form :=
  if s.toList.contains '\n' then .literal
  else if hasLeadingZero s.toList then .single
  else
    match Value.ofPlain? s with
    | some (.string _) => .plain
    | _ => .single

/-- The form in which a text is written. `asKey` holds for a key that stands on one line with its value. -/
def chosenForm (s : String) (asKey : Bool) : Form :=
  match s.toList with
  | [] => .single
  | cs =>
    let h := shape cs
    let wanted := wantedForm s
    let wanted := if asKey && h.hasBreak then .double else wanted
    let plainAllowed := !(h.leadingBlank || h.trailingBlank || h.breakSpace || h.spaceBreak ||
      h.hasSpecial || h.hasBreak || h.hasIndicator)
    let singleAllowed := !(h.breakSpace || h.spaceBreak || h.hasSpecial)
    let literalAllowed := !(h.trailingSpace || h.spaceBreak || h.hasSpecial)
    let wanted := if wanted = .plain && !plainAllowed then .single else wanted
    let wanted := if wanted = .single && !singleAllowed then .double else wanted
    if wanted = .literal && (!literalAllowed || asKey) then .double else wanted

/-! ### Scalars -/

/-- The upper-case digits of a number to base sixteen, at least `width` of them. -/
def upperHex (width n : Nat) : List Char :=
  let ds := (Nat.toDigits 16 n).map Char.toUpper
  List.replicate (width - ds.length) '0' ++ ds

/-- A character between double quotes. -/
def doubleQuotedChar (c : Char) : List Char :=
  let n := c.toNat
  let named : Option Char :=
    [(0, '0'), (7, 'a'), (8, 'b'), (9, 't'), (10, 'n'), (11, 'v'), (12, 'f'), (13, 'r'), (27, 'e'),
      (34, '"'), (92, '\\'), (0x85, 'N'), (0xA0, '_'), (0x2028, 'L'), (0x2029, 'P')].lookup n
  if isPlainChar c && !isBreak c && c != '"' && c != '\\' then [c]
  else
    match named with
    | some e => ['\\', e]
    | none =>
      if n ≤ 0xFF then '\\' :: 'x' :: upperHex 2 n else '\\' :: 'u' :: upperHex 4 n

/-- Writes the characters of a single-quoted scalar. Only separators that are not line feeds can break a
line in one. -/
def putSingle (column : Nat) (p : Pen) : List Char → Pen
  | [] => p
  | c :: cs =>
    if isBreak c then putSingle column { p.putBreak c with indented := true, blank := true } cs
    else
      let p := if p.column == 0 then p.indentTo column else p
      let p := p.put (if c == '\'' then ['\'', '\''] else [c])
      putSingle column { p with indented := false, blank := c == ' ' } cs

/-- The marks of a block scalar: its indentation, where the text begins with a blank, and how the line
breaks at its end are kept. -/
def blockMarks (cs : List Char) : List Char :=
  let indent := if cs.head?.any fun c => c == ' ' || isBreak c then ['2'] else []
  let chomp := match cs.reverse with
    | [] => ['-']
    | c :: rest =>
      if !isBreak c then ['-']
      else match rest with
        | [] => ['+']
        | d :: _ => if isBreak d then ['+'] else []
  indent ++ chomp

/-- Writes the lines of a block scalar. -/
def putLiteral (column : Nat) (lineStart : Bool) (p : Pen) : List Char → Pen
  | [] => p
  | c :: cs =>
    if isBreak c then putLiteral column true { p.putBreak c with indented := true } cs
    else
      let p := if lineStart then p.indentTo column else p
      putLiteral column false { p.put [c] with indented := false } cs

/-- Writes a string, whose further lines stand at the given column. -/
def putString (column : Nat) (asKey : Bool) (p : Pen) (s : String) : Pen :=
  let cs := s.toList
  match chosenForm s asKey with
  | .plain =>
    let p := if p.blank then p else p.put [' ']
    { p.put cs with blank := false, indented := false }
  | .single =>
    let p := p.indicator ['\''] true false false
    let p := putSingle column p cs
    let p := if p.column == 0 then p.indentTo column else p
    { p.indicator ['\''] false false false with blank := false, indented := false }
  | .double =>
    let p := p.indicator ['"'] true false false
    let p := p.put (cs.flatMap doubleQuotedChar)
    { p.indicator ['"'] false false false with blank := false, indented := false }
  | .literal =>
    let p := p.indicator ['|'] true false false
    let p := p.put (blockMarks cs)
    let p := { p.putBreak '\n' with indented := true, blank := true }
    putLiteral column true p cs

/-! ### Values -/

/-- Whether a key stands on one line with its value. -/
def isShortKey (s : String) : Bool := s.utf8ByteSize ≤ 128 && !s.toList.any isBreak

/-- Writes an item of a sequence at a column. -/
def putItem (column : Nat) (p : Pen) (s : String) : Pen :=
  let p := (p.indentTo column).indicator ['-'] true false true
  putString (column + 2) false p s

/-- Writes a key at a column and what comes before its value. -/
def putKey (column : Nat) (p : Pen) (key : String) : Pen :=
  let p := p.indentTo column
  if isShortKey key then (putString (column + 2) true p key).indicator [':'] false false false
  else
    let p := p.indicator ['?'] true false true
    let p := putString (column + 2) false p key
    (p.indentTo column).indicator [':'] true false true

mutual
/-- Writes an attribute after its key, which stands at the given column. -/
def putAttr (column : Nat) (p : Pen) : Attr.Value → Pen
  | .text s => putString (column + 2) false p s
  | .list [] => p.indicator ['[', ']'] true false false
  | .list items =>
    let column := if p.indented then column + 2 else column
    items.foldl (putItem column) p
  | .map [] => p.indicator ['\x7b', '\x7d'] true false false
  | .map (e :: rest) => putEntries (column + 2) p (e :: rest)
termination_by structural v => v
/-- Writes entries at the given column. -/
def putEntries (column : Nat) (p : Pen) : List (String × Attr.Value) → Pen
  | [] => p
  | (k, v) :: rest => putEntries column (putAttr column (putKey column p k) v) rest
termination_by structural es => es
end

/-- The written form of a tree. -/
def write (tree : Attr.Tree) : String :=
  let p := match tree with
    | [] => Pen.start.put ['\x7b', '\x7d']
    | tree => putEntries 0 Pen.start tree
  if p.column == 0 then p.text else (p.putBreak '\n').text

end Bindery.Yaml
