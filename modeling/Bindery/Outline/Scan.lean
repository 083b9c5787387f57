import Bindery.Error
import Bindery.Outline.Token

/-! # From lines to tokens

Physical lines are first joined into logical ones: blank lines and comments are dropped, and a line whose
text ends in a backslash is continued by the next. Each logical line then gives the tokens that its
indentation opens or closes, followed by those of its text. A failing line gives no token at all, and
nothing follows it. -/

namespace Bindery.Outline

/-- A physical line without its line end, or `none` where its bytes are not text. -/
abbrev Line := Option (List Char)

/-- What stands between a continued line and its continuation. -/
def joiner : List Char := ['\n', ' ', ' ']

/-- The reason given for bytes that are not text. -/
def notTextReason : String := "stream did not contain valid UTF-8"

/-- The lines of a text. All carriage returns and line feeds at the end of a line belong to its end. -/
def Line.ofText (s : String) : List Line :=
  (Text.lineChars s.toList).map fun l => some (Text.dropEndWhile Text.isLineEnd l)

/-- The chunks of bytes that line feeds end. -/
def byteLines : List UInt8 → List (List UInt8)
  | [] => []
  | b :: bs =>
    if b = 10 then [b] :: byteLines bs
    else match byteLines bs with
      | [] => [[b]]
      | l :: ls => (b :: l) :: ls

/-- The text that bytes encode, if they do. -/
def decode? (bs : List UInt8) : Option String := String.fromUTF8? ⟨bs.toArray⟩

/-- The lines of bytes of which some may not be text. -/
def Line.ofBytes (bs : List UInt8) : List Line :=
  (byteLines bs).map fun l => (decode? l).map fun s => Text.dropEndWhile Text.isLineEnd s.toList

/-! ### Logical lines -/

/-- A logical line. -/
inductive Logical where
  /-- It begins on physical line `number` (the first is 1), `indent` characters in; `text` is `none` if
  a continuation is not text. -/
  | content (number indent : Nat) (text : Option (List Char))
  /-- Its first physical line is not text. -/
  | unreadable
deriving Repr, DecidableEq

/-- Blank lines and comments say nothing. -/
def isSilent (raw : List Char) : Bool :=
  match Text.trimChars raw with
  | [] => true
  | c :: _ => c == '#'

/-- Whether the next line continues this text. -/
def isContinued (text : List Char) : Bool := text.getLast? == some '\\'

/-- A continued text with its continuation. -/
def continueWith (text next : List Char) : List Char := text.dropLast ++ joiner ++ Text.trimChars next

/-- The logical lines of the lines after the first `n`. `pending` is a line that these continue: its
number, its indentation and its text so far. -/
def logicalFrom (n : Nat) (pending : Option (Nat × Nat × List Char)) : List Line → List Logical
  | [] =>
    match pending with
    | none => []
    | some (number, indent, text) => [.content number indent (some (continueWith text []))]
  | none :: _ =>
    match pending with
    | none => [.unreadable]
    | some (number, indent, _) => [.content number indent none]
  | some raw :: rest =>
    match pending with
    | none =>
      let indent := (raw.takeWhile Text.isIndent).length
      let text := Text.trimChars raw
      if isSilent raw then logicalFrom (n + 1) none rest
      else if isContinued text then logicalFrom (n + 1) (some (n + 1, indent, text)) rest
      else .content (n + 1) indent (some text) :: logicalFrom (n + 1) none rest
    | some (number, indent, text) =>
      let text := continueWith text raw
      if isContinued text then logicalFrom (n + 1) (some (number, indent, text)) rest
      else .content number indent (some text) :: logicalFrom (n + 1) none rest

/-- The logical lines of a source. -/
def logicalLines (ls : List Line) : List Logical := logicalFrom 0 none ls

/-! ### Tokens -/

/-- Closes the blocks that stand deeper than column `i`; fails if none stands at it. -/
def closeTo (i : Nat) : List Nat → Option (List Token × List Nat)
  | [] => none
  | level :: below =>
    if i < level then (closeTo i below).map fun (ts, open_) => (.dedent :: ts, open_)
    else if i = level then some ([], level :: below)
    else none

/-- The tokens by which a line at column `i` changes the open columns (the innermost first), and the
columns open after it. -/
def reindent (i : Nat) : List Nat → Option (List Token × List Nat)
  | [] => none
  | top :: below => if top < i then some ([.indent], i :: top :: below) else closeTo i (top :: below)

/-- The tokens of a logical line's text; fails if a key is empty. -/
def textTokens (text : List Char) : Option (List Token) :=
  match Text.cutWhere? (· == ':') text with
  | none => some [.text (String.ofList text)]
  | some (keys, value) =>
    let keys := (Text.splitWhere (· == ',') (Text.trimChars keys)).map Text.trimChars
    let value := Text.trimChars value
    if keys.any (·.isEmpty) then none
    else
      let key := Token.key (keys.map String.ofList)
      some (if value.isEmpty then [key] else [key, .indent, .text (String.ofList value), .dedent])

/-- What scanning yields: tokens, and the failure that ends them, if one does. -/
structure Scan where
  tokens : List Token
  failure : Option Error
deriving Repr, DecidableEq, Inhabited

/-- Tokens in front of what scanning the rest yields. -/
def Scan.after (ts : List Token) (s : Scan) : Scan := ⟨ts ++ s.tokens, s.failure⟩

/-- Scans logical lines with the given columns open; `name` is what unreadable bytes are reported of. At
the end every open block is closed, the outermost included. -/
def scanLogical (name : String) (columns : List Nat) : List Logical → Scan
  | [] => ⟨List.replicate columns.length .dedent, none⟩
  | .unreadable :: _ => ⟨[], some (.io name notTextReason)⟩
  | .content number indent text :: rest =>
    match reindent indent columns with
    | none => ⟨[], some (.badIndentation number)⟩
    | some (moves, columns) =>
      match text with
      | none => ⟨[], some (.io name notTextReason)⟩
      | some text =>
        match textTokens text with
        | none => ⟨[], some (.missingKey number)⟩
        | some ts => (scanLogical name columns rest).after (moves ++ ts)

/-- Scans physical lines. -/
def scanLines (name : String) (ls : List Line) : Scan := scanLogical name [0] (logicalLines ls)

/-- Scans a text. -/
def scan (s : String) : Scan := scanLines "<input>" (Line.ofText s)

namespace Scan

/-- What a scan yields, one thing after the other. -/
def items (s : Scan) : List (Except Error Token) :=
  s.tokens.map .ok ++ (s.failure.map .error).toList

/-- What the `n`-th request for a token gives, counted from 0; nothing, after the end. -/
def item? (s : Scan) (n : Nat) : Option (Except Error Token) := s.items[n]?

/-- The tokens of a scan that does not fail. -/
def result (s : Scan) : Except Error (List Token) :=
  match s.failure with
  | none => .ok s.tokens
  | some e => .error e

end Scan

/-- The tokens of a text. -/
def tokenize (s : String) : Except Error (List Token) := (scan s).result

end Bindery.Outline
