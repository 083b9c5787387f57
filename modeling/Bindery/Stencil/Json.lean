import Bindery.Stencil.Datum

/-! # Data as JSON

The written form of data is JSON. Of fields of one name the last one counts. Lists and records may be nested
up to a bound. -/

namespace Bindery.Stencil.Datum

/-- A blank between the parts of a JSON text. -/
def isJsonBlank (c : Char) : Bool := c == ' ' || c == '\t' || c == '\n' || c == '\r'

/-- The rest after blanks. -/
def afterBlanks (cs : List Char) : List Char := cs.dropWhile isJsonBlank

/-! ### Texts -/

/-- What an escape of one letter stands for. -/
def escaped? : Char → Option Char
  | '"' => some '"'
  | '\\' => some '\\'
  | '/' => some '/'
  | 'b' => some '\x08'
  | 'f' => some '\x0c'
  | 'n' => some '\n'
  | 'r' => some '\r'
  | 't' => some '\t'
  | _ => none

/-- The number that the first four characters write as hexadecimal digits, and the rest. -/
def unit? (cs : List Char) : Option (Nat × List Char) :=
  if (cs.take 4).length = 4 then (Decimal.natural? 16 (cs.take 4)).map fun n => (n, cs.drop 4) else none

/-- The character of two halves of a pair. -/
def pairChar (high low : Nat) : Char := Char.ofNat (0x10000 + (high - 0xD800) * 0x400 + (low - 0xDC00))

/-- The character of a code after a backslash, and the rest. A half of a pair does not stand alone. -/
def codeChar? (cs : List Char) : Option (Char × List Char) :=
  match unit? cs with
  | none => none
  | some (n, rest) =>
    if 0xD800 ≤ n ∧ n < 0xDC00 then
      match rest with
      | '\\' :: 'u' :: rest =>
        match unit? rest with
        | some (m, rest) => if 0xDC00 ≤ m ∧ m < 0xE000 then some (pairChar n m, rest) else none
        | none => none
      | _ => none
    else if 0xDC00 ≤ n ∧ n < 0xE000 then none
    else some (Char.ofNat n, rest)

/-- The text up to the next quotation mark, and the rest after it. -/
def textEnd? : (fuel : Nat) → List Char → Option (List Char × List Char)
  | 0, _ => none
  | fuel + 1, cs =>
    match cs with
    | [] => none
    | '"' :: rest => some ([], rest)
    | '\\' :: 'u' :: rest =>
      match codeChar? rest with
      | some (c, rest) => (textEnd? fuel rest).map fun (t, rest) => (c :: t, rest)
      | none => none
    | '\\' :: e :: rest =>
      match escaped? e with
      | some c => (textEnd? fuel rest).map fun (t, rest) => (c :: t, rest)
      | none => none
    | c :: rest => if c.toNat < 0x20 then none else (textEnd? fuel rest).map fun (t, rest) => (c :: t, rest)

/-- A text at the start, and the rest. -/
def textAtStart? : List Char → Option (String × List Char)
  | '"' :: rest => (textEnd? (rest.length + 1) rest).map fun (t, rest) => (String.ofList t, rest)
  | _ => none

/-! ### Lists and records -/

/-- The rest after a word at the start, if it stands there. -/
def afterWord? (word : String) (cs : List Char) : Option (List Char) := List.isPrefixOf? word.toList cs

mutual
/-- A datum at the start, nested no more than `depth` times, and the rest. -/
def atStart? : (fuel depth : Nat) → List Char → Option (Datum × List Char)
  | 0, _, _ => none
  | fuel + 1, depth, cs =>
    match afterBlanks cs with
    | '"' :: rest => (textAtStart? ('"' :: rest)).map fun (t, rest) => (.text t, rest)
    | '[' :: rest =>
      if depth = 0 then none
      else
        match afterBlanks rest with
        | ']' :: rest => some (.list [], rest)
        | rest => (items? fuel (depth - 1) rest).map fun (ds, rest) => (.list ds, rest)
    | '\x7b' :: rest =>
      if depth = 0 then none
      else
        match afterBlanks rest with
        | '\x7d' :: rest => some (.record [], rest)
        | rest => (fields? fuel (depth - 1) rest).map fun (fs, rest) => (ofFields fs, rest)
    | rest =>
      match afterWord? "null" rest, afterWord? "true" rest, afterWord? "false" rest with
      | some rest, _, _ => some (.null, rest)
      | _, some rest, _ => some (.bool true, rest)
      | _, _, some rest => some (.bool false, rest)
      | none, none, none => (Quantity.atStart? rest).map fun (q, rest) => (.number q, rest)
/-- The items up to the end of a list, and the rest after it. -/
def items? : (fuel depth : Nat) → List Char → Option (List Datum × List Char)
  | 0, _, _ => none
  | fuel + 1, depth, cs =>
    match atStart? fuel depth cs with
    | none => none
    | some (d, rest) =>
      match afterBlanks rest with
      | ']' :: rest => some ([d], rest)
      | ',' :: rest => (items? fuel depth rest).map fun (ds, rest) => (d :: ds, rest)
      | _ => none
/-- The fields up to the end of a record, and the rest after it. -/
def fields? : (fuel depth : Nat) → List Char → Option (List (String × Datum) × List Char)
  | 0, _, _ => none
  | fuel + 1, depth, cs =>
    match textAtStart? (afterBlanks cs) with
    | none => none
    | some (name, rest) =>
      match afterBlanks rest with
      | ':' :: rest =>
        match atStart? fuel depth rest with
        | none => none
        | some (d, rest) =>
          match afterBlanks rest with
          | '\x7d' :: rest => some ([(name, d)], rest)
          | ',' :: rest => (fields? fuel depth rest).map fun (fs, rest) => ((name, d) :: fs, rest)
          | _ => none
      | _ => none
end

/-- How deep lists and records may be nested. -/
def greatestDepth : Nat := 127

/-- The datum that a text writes. -/
def ofChars? (cs : List Char) : Option Datum :=
  match atStart? (cs.length + 1) greatestDepth cs with
  | some (d, rest) => if afterBlanks rest = [] then some d else none
  | none => none

/-- The datum that a text writes. -/
def ofJson? (s : String) : Option Datum := ofChars? s.toList

end Bindery.Stencil.Datum
