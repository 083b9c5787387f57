import Bindery.Config
import Bindery.Text.Digit
import Bindery.Text.Pieces

/-! # Reading a configuration

A configuration is a TOML document: lines of the form `key = value`, blank lines and comments. Each setting
may be given once. A switch is `true` or `false`; a text stands in quotation marks, in which escapes are
replaced, or in apostrophes, in which they are not, and in three of either it may run over several lines.
Documents with anything else are refused, since no other key and no other kind of value is a setting. -/

namespace Bindery.Config

/-- A value in a configuration. -/
inductive Literal where
  | flag (b : Bool)
  | text (s : String)
deriving Repr, DecidableEq, Inhabited

/-- A character that a comment and a text may hold: no control character but the tab. -/
def isAllowed (c : Char) : Bool := c == '\t' || (c.toNat ≥ 0x20 && c.toNat ≠ 0x7F)

/-- The rest after a line end, or after nothing at the end of the document. -/
def afterLineEnd? : List Char → Option (List Char)
  | [] => some []
  | '\n' :: rest => some rest
  | '\r' :: '\n' :: rest => some rest
  | _ => none

/-- The rest after blanks, possibly a comment, and a line end. -/
def afterLine? (cs : List Char) : Option (List Char) :=
  match cs.dropWhile Text.isIndent with
  | '#' :: rest => afterLineEnd? (rest.dropWhile isAllowed)
  | rest => afterLineEnd? rest

/-! ### Texts -/

/-- The value of a hexadecimal digit. -/
def hexValue? (c : Char) : Option Nat :=
  if 'a' ≤ c ∧ c ≤ 'f' then some (c.toNat - 'a'.toNat + 10)
  else if 'A' ≤ c ∧ c ≤ 'F' then some (c.toNat - 'A'.toNat + 10)
  else Text.digitValue? c

/-- The character whose code point hexadecimal digits write. -/
def hexChar? (digits : List Char) : Option Char := do
  let n ← digits.foldlM (fun n c => (hexValue? c).map (n * 16 + ·)) 0
  if n.isValidChar then some (Char.ofNat n) else none

/-- What an escape of one letter stands for. -/
def escaped? : Char → Option Char
  | 'b' => some '\x08'
  | 'e' => some '\x1b'
  | 't' => some '\t'
  | 'n' => some '\n'
  | 'f' => some '\x0c'
  | 'r' => some '\r'
  | '"' => some '"'
  | '\\' => some '\\'
  | _ => none

/-- How many hexadecimal digits follow a letter after a backslash. -/
def hexLength? : Char → Option Nat
  | 'x' => some 2
  | 'u' => some 4
  | 'U' => some 8
  | _ => none

/-- The character that an escape stands for, of which the part after the backslash is given, and the rest. -/
def escape? : List Char → Option (Char × List Char)
  | [] => none
  | c :: rest =>
    match hexLength? c with
    | some n =>
      if (rest.take n).length = n then (hexChar? (rest.take n)).map fun e => (e, rest.drop n) else none
    | none => (escaped? c).map fun e => (e, rest)

/-- The text up to the next quotation mark, and the rest after it. -/
def quotedText? : Nat → List Char → Option (List Char × List Char)
  | 0, _ => none
  | fuel + 1, cs =>
    match cs with
    | [] => none
    | '"' :: rest => some ([], rest)
    | '\\' :: rest => do
      let (c, rest) ← escape? rest
      let (text, rest) ← quotedText? fuel rest
      return (c :: text, rest)
    | c :: rest =>
      if isAllowed c then (quotedText? fuel rest).map fun (text, rest) => (c :: text, rest) else none

/-- The text up to the next apostrophe, and the rest after it. -/
def literalText? : List Char → Option (List Char × List Char)
  | [] => none
  | c :: rest =>
    if c = '\'' then some ([], rest)
    else if isAllowed c then (literalText? rest).map fun (text, rest) => (c :: text, rest)
    else none

/-- The rest after a line end that follows the opening of a text of several lines, if one does. -/
def afterOpening : List Char → List Char
  | '\n' :: rest => rest
  | '\r' :: '\n' :: rest => rest
  | cs => cs

/-- The end of a text of several lines: up to two of the quotes before the last three belong to it. -/
def closing? (quote : Char) (cs : List Char) : Option (List Char × List Char) :=
  let n := (cs.takeWhile (· == quote)).length
  if n < 3 then none else some (List.replicate (min (n - 3) 2) quote, cs.drop (min n 5))

/-- The rest after blanks and line ends. -/
def afterBlanks : List Char → List Char
  | '\n' :: rest => afterBlanks rest
  | '\r' :: '\n' :: rest => afterBlanks rest
  | c :: rest => if Text.isIndent c then afterBlanks rest else c :: rest
  | [] => []

/-- The rest after a backslash at the end of a line: it and all blanks and line ends after it are dropped. -/
def afterFold? (cs : List Char) : Option (List Char) :=
  match cs.dropWhile Text.isIndent with
  | '\n' :: rest => some (afterBlanks rest)
  | '\r' :: '\n' :: rest => some (afterBlanks rest)
  | _ => none

/-- The text of several lines up to three quotes, and the rest after them; escapes are replaced if the
quotes are quotation marks. -/
def longText? (quote : Char) : Nat → List Char → Option (List Char × List Char)
  | 0, _ => none
  | fuel + 1, cs =>
    match closing? quote cs with
    | some found => some found
    | none =>
      match cs with
      | [] => none
      | '\r' :: '\n' :: rest =>
        (longText? quote fuel rest).map fun (text, rest) => ('\r' :: '\n' :: text, rest)
      | c :: rest =>
        if c = '\\' ∧ quote = '"' then
          match afterFold? rest with
          | some rest => longText? quote fuel rest
          | none => do
            let (c, rest) ← escape? rest
            let (text, rest) ← longText? quote fuel rest
            return (c :: text, rest)
        else if isAllowed c ∨ c = '\n' then
          (longText? quote fuel rest).map fun (text, rest) => (c :: text, rest)
        else none

/-- The text with which characters begin, and the rest after it. -/
def text? (cs : List Char) : Option (List Char × List Char) :=
  match cs with
  | '"' :: '"' :: '"' :: rest => longText? '"' (rest.length + 1) (afterOpening rest)
  | '\'' :: '\'' :: '\'' :: rest => longText? '\'' (rest.length + 1) (afterOpening rest)
  | '"' :: rest => quotedText? (rest.length + 1) rest
  | '\'' :: rest => literalText? rest
  | _ => none

/-! ### Settings -/

/-- The value with which characters begin, and the rest after it. -/
def literal? (cs : List Char) : Option (Literal × List Char) :=
  match List.isPrefixOf? "true".toList cs, List.isPrefixOf? "false".toList cs with
  | some rest, _ => some (.flag true, rest)
  | _, some rest => some (.flag false, rest)
  | none, none => (text? cs).map fun (text, rest) => (.text (String.ofList text), rest)

/-- A character that may stand in a key without quotes. -/
def isKeyChar (c : Char) : Bool := c.isAlphanum || c == '_' || c == '-'

/-- The key with which characters begin, and the rest after it. -/
def key? (cs : List Char) : Option (String × List Char) :=
  match cs with
  | '"' :: rest => (quotedText? (rest.length + 1) rest).map fun (key, rest) => (String.ofList key, rest)
  | '\'' :: rest => (literalText? rest).map fun (key, rest) => (String.ofList key, rest)
  | _ =>
    let key := cs.takeWhile isKeyChar
    if key = [] then none else some (String.ofList key, cs.dropWhile isKeyChar)

/-- The setting with which characters begin, and the rest after its line. -/
def setting? (cs : List Char) : Option ((String × Literal) × List Char) := do
  let (key, rest) ← key? cs
  let rest ← List.isPrefixOf? ['='] (rest.dropWhile Text.isIndent)
  let (value, rest) ← literal? (rest.dropWhile Text.isIndent)
  return ((key, value), ← afterLine? rest)

/-- The settings of a document. -/
def settings? : Nat → List Char → Option (List (String × Literal))
  | 0, _ => none
  | fuel + 1, cs =>
    if cs = [] then some []
    else
      match afterLine? cs with
      | some rest => settings? fuel rest
      | none => do
        let (setting, rest) ← setting? (cs.dropWhile Text.isIndent)
        return setting :: (← settings? fuel rest)

/-- Sets a setting. -/
def set? (c : Config) : String × Literal → Option Config
  | ("strict_dependencies", .flag b) => some { c with strict := b }
  | ("fail_on_diagnostics", .flag b) => some { c with failOnDiagnostics := b }
  | ("block_sigil", .text s) => some { c with sigil := s }
  | ("indent", .text s) => some { c with indent := s }
  | _ => none

/-- A document without the byte order mark that may stand at its beginning. -/
def withoutMark (cs : List Char) : List Char :=
  match cs with
  | c :: rest => if c.toNat = 0xFEFF then rest else cs
  | [] => []

/-- The configuration that a text describes, before it is checked. -/
def ofText? (s : String) : Option Config := do
  let cs := withoutMark s.toList
  let settings ← settings? (cs.length + 1) cs
  if (settings.map (·.1)).Nodup then settings.foldlM set? Config.default else none

/-- The configuration that a text describes. -/
def ofText (s : String) : Except Error Config :=
  match ofText? s with
  | none => .error (.config "failed to parse configuration")
  | some c => c.validate.map fun _ => c

end Bindery.Config
