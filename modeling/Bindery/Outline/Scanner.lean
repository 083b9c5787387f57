import Bindery.Outline.Scan

/-! # Scanning on request

A scanner reads physical lines only when a token is requested and none is queued. The tokens of a line are
queued one after the other, before it is known whether the whole line can be scanned; a failure empties the
queue and ends the scanner. -/

namespace Bindery.Outline

/-- The number of lines after those that say nothing, and the lines from the first one that says something. -/
def skipSilent (n : Nat) : List Line → Nat × List Line
  | [] => (n, [])
  | none :: rest => (n, none :: rest)
  | some raw :: rest => if isSilent raw then skipSilent (n + 1) rest else (n, some raw :: rest)

/-- The text that begins with `text` on line `n` and ends where no line continues it; nothing, if a continuation
is not text. It comes with the number of its last line and the lines after it. -/
def gather (n : Nat) (text : List Char) : List Line → Nat × List Line × Option (List Char)
  | [] => (n, [], some (if isContinued text then continueWith text [] else text))
  | none :: rest => if isContinued text then (n, rest, none) else (n, none :: rest, some text)
  | some raw :: rest =>
    if isContinued text then gather (n + 1) (continueWith text raw) rest else (n, some raw :: rest, some text)

/-- A scanner in the middle of its lines. -/
structure Scanner where
  /-- What unreadable bytes are reported of. -/
  name : String
  /-- The lines that have not been read. -/
  rest : List Line
  /-- The number of lines that have been read. -/
  line : Nat
  /-- The columns of the open blocks, the innermost first. -/
  columns : List Nat
  /-- The tokens that have not been requested. -/
  queue : List Token
  /-- Whether no further line is read. -/
  finished : Bool
deriving Repr, DecidableEq

namespace Scanner

/-- A scanner that has read nothing. -/
def ofLines (name : String) (ls : List Line) : Scanner := ⟨name, ls, 0, [0], [], false⟩

/-- The scanner of a text. -/
def ofText (s : String) : Scanner := ofLines "<input>" (Line.ofText s)

/-- Moves to the column of a line, which begins on line `number`: a deeper column opens a block, and otherwise
all deeper blocks are closed. The blocks are closed even if none stands at the column, which is a failure. -/
def moveTo (s : Scanner) (number column : Nat) : Scanner × Except Error Unit :=
  if s.columns.headD 0 < column then
    ({ s with columns := column :: s.columns, queue := s.queue ++ [.indent] }, .ok ())
  else
    let closed := (s.columns.takeWhile (column < ·)).map fun _ => Token.dedent
    let s := { s with columns := s.columns.dropWhile (column < ·), queue := s.queue ++ closed }
    (s, if s.columns.head? = some column then .ok () else .error (.badIndentation number))

/-- Reads the next logical line and queues its tokens, or closes all blocks at the end of the lines. -/
def advance (s : Scanner) : Scanner × Except Error Unit :=
  match skipSilent s.line s.rest with
  | (line, []) =>
    let closed := s.columns.map fun _ => Token.dedent
    ({ s with line, rest := [], columns := [], queue := s.queue ++ closed, finished := true }, .ok ())
  | (line, none :: rest) => ({ s with line, rest }, .error (.io s.name notTextReason))
  | (line, some raw :: rest) =>
    let number := line + 1
    match { s with line := number, rest }.moveTo number (raw.takeWhile Text.isIndent).length with
    | (s, .error e) => (s, .error e)
    | (s, .ok ()) =>
      match gather s.line (Text.trimChars raw) s.rest with
      | (line, rest, none) => ({ s with line, rest }, .error (.io s.name notTextReason))
      | (line, rest, some text) =>
        match textTokens text with
        | none => ({ s with line, rest }, .error (.missingKey number))
        | some ts => ({ s with line, rest, queue := s.queue ++ ts }, .ok ())

/-- Hands out the first token of the queue. -/
def pop (s : Scanner) : Scanner × Option (Except Error Token) :=
  match s.queue with
  | [] => (s, none)
  | t :: ts => ({ s with queue := ts }, some (.ok t))

/-- A request for a token: lines are read only if none is queued. -/
def next (s : Scanner) : Scanner × Option (Except Error Token) :=
  if s.queue.isEmpty && !s.finished then
    match s.advance with
    | (s, .ok ()) => s.pop
    | (s, .error e) => ({ s with queue := [], finished := true }, some (.error e))
  else s.pop

/-- What the `n`-th request from now on gives, counted from 0. -/
def answer? (s : Scanner) : Nat → Option (Except Error Token)
  | 0 => s.next.2
  | n + 1 => s.next.1.answer? n

end Scanner
end Bindery.Outline
