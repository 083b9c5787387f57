import Bindery.Yaml.Chars

/-! # Tokens of YAML

What the characters of a document say before its nesting is known: indicators, the beginnings and ends of
block collections (which indentation alone shows), properties and scalars. A scalar that turns out to be
followed by a colon is a key, so its key token is put in front of it afterwards: a place where such a key
may begin is remembered as a `Candidate` until its line ends. -/

namespace Bindery.Yaml

/-- Whether a scalar is written without quotes; only then its text may stand for something else. -/
inductive Style where
  | plain
  | quoted
deriving Repr, DecidableEq, Inhabited

/-- The bytes of a tag, or of a part of one. They need not be a text, since an escape may write any byte. -/
abbrev TagBytes := List UInt8

/-- The bytes of a tag that is a text. -/
def TagBytes.ofText (s : String) : TagBytes := s.toUTF8.toList

/-- A token of a document. -/
inductive Token where
  | versionDirective (major minor : Nat)
  | tagDirective (handle : String) (start : TagBytes)
  | documentStart
  | documentEnd
  | blockSequenceStart
  | blockMappingStart
  | blockEnd
  | flowSequenceStart
  | flowSequenceEnd
  | flowMappingStart
  | flowMappingEnd
  | blockEntry
  | flowEntry
  | key
  | value
  | alias (name : String)
  | anchor (name : String)
  | tag (handle : String) (rest : TagBytes)
  | scalar (text : String) (style : Style)
deriving Repr, DecidableEq, Inhabited

/-! ### The scanner -/

/-- A place where a key may begin. -/
structure Candidate where
  possible : Bool
  /-- The key ends the block if it turns out to be none. -/
  required : Bool
  /-- The number of tokens before it. -/
  number : Nat
  /-- The number of bytes before it. -/
  index : Nat
  line : Nat
  column : Nat
deriving Inhabited

/-- No place for a key. -/
def Candidate.none : Candidate := ⟨false, false, 0, 0, 0, 0⟩

/-- A scanner: what is left of the text and where that begins, the open collections, and the tokens so
far. -/
structure Scanner where
  rest : List Char
  /-- The number of bytes that have been passed over. -/
  index : Nat
  line : Nat
  column : Nat
  /-- The candidate of the innermost flow collection, or of the block. -/
  candidate : Candidate
  /-- The candidates of the collections around it; there are as many as open flow collections. -/
  outer : List Candidate
  /-- The column of the innermost block collection, -1 if there is none. -/
  indent : Int
  /-- The columns of the collections around it. -/
  indents : List Int
  /-- Whether a key may begin here. -/
  keyAllowed : Bool
  tokens : Array Token
deriving Inhabited

/-- A step of scanning; it fails where the text is malformed. -/
abbrev ScanM := StateT Scanner Option

namespace ScanM

/-- Fails. -/
def malformed {α : Type} : ScanM α := fun _ => none

/-- Fails unless a condition holds. -/
def require (ok : Bool) : ScanM Unit := if ok then pure () else malformed

/-- What is left of the text. -/
def rest : ScanM (List Char) := return (← get).rest

/-- Whether a flow collection is open. -/
def inFlow : ScanM Bool := return !(← get).outer.isEmpty

/-- Passes over one character that breaks no line. -/
def skip : ScanM Unit :=
  modify fun s => { s with
    rest := s.rest.drop 1
    index := s.index + (s.rest.head?.map Char.utf8Size).getD 0
    column := s.column + 1 }

/-- Passes over several characters. -/
def skipN : Nat → ScanM Unit
  | 0 => pure ()
  | n + 1 => do skip; skipN n

/-- Passes over a line break. -/
def skipBreak : ScanM Unit :=
  modify fun s =>
    let (n, rest) := match s.rest with
      | '\r' :: '\n' :: rest => (2, rest)
      | c :: rest => (c.utf8Size, rest)
      | [] => (0, [])
    { s with rest := rest, index := s.index + n, line := s.line + 1, column := 0 }

/-- Passes over characters while `p` holds of what is left, and returns them. -/
def takeWhile (p : List Char → Bool) : Nat → ScanM (List Char)
  | 0 => pure []
  | fuel + 1 => do
    match ← rest with
    | [] => pure []
    | c :: cs =>
      if p (c :: cs) then
        skip
        return c :: (← takeWhile p fuel)
      else pure []

/-- Passes over the characters that satisfy `p`, and returns them. -/
def takeChars (p : Char → Bool) : ScanM (List Char) := do
  takeWhile (fun cs => cs.head?.any p) (← rest).length

/-- Adds a token. -/
def emit (t : Token) : ScanM Unit := modify fun s => { s with tokens := s.tokens.push t }

/-- Puts a token in front of the token with the given number. -/
def emitAt (number : Nat) (t : Token) : ScanM Unit :=
  modify fun s => { s with
    tokens := s.tokens.extract 0 number ++ #[t] ++ s.tokens.extract number s.tokens.size }

/-! ### Blocks and keys -/

/-- Opens a block collection if the column is right of the innermost one. Its token is put in front of the
given one, or at the end. -/
def openBlock (column : Nat) (number : Option Nat) (t : Token) : ScanM Unit := do
  let s ← get
  if s.outer.isEmpty && s.indent < column then
    set { s with indent := (column : Int), indents := s.indent :: s.indents }
    match number with
    | some n => emitAt n t
    | none => emit t

/-- Closes the block collections right of the given column. -/
def closeBlocks (column : Int) : ScanM Unit := do
  let s ← get
  if s.outer.isEmpty then go s.indents
where
  go : List Int → ScanM Unit
    | [] => pure ()
    | around :: indents => do
      if column < (← get).indent then
        emit .blockEnd
        modify fun s => { s with indent := around, indents := indents }
        go indents

/-- Gives up the candidate; one that is required must not be given up. -/
def dropCandidate : ScanM Unit := do
  let s ← get
  require !(s.candidate.possible && s.candidate.required)
  set { s with candidate := { s.candidate with possible := false } }

/-- Makes this place the candidate, if a key may begin here. -/
def noteCandidate : ScanM Unit := do
  if (← get).keyAllowed then
    dropCandidate
    modify fun s => { s with
      candidate := ⟨true, s.outer.isEmpty && s.indent == s.column, s.tokens.size, s.index, s.line,
        s.column⟩ }

/-- A candidate whose line has ended, or which is more than 1024 bytes back, is none any more. -/
def expireCandidates : ScanM Unit := do
  let s ← get
  let expired (c : Candidate) : Bool := c.possible && (c.line < s.line || c.index + 1024 < s.index)
  require <| (s.candidate :: s.outer).all fun c => !(expired c && c.required)
  let renew (c : Candidate) : Candidate := if expired c then { c with possible := false } else c
  set { s with candidate := renew s.candidate, outer := s.outer.map renew }

/-- Says whether a key may begin here. -/
def allowKey (allowed : Bool) : ScanM Unit := modify fun s => { s with keyAllowed := allowed }

/-- Passes over blanks, comments and line breaks, and over a byte order mark at the beginning of a line. -/
def skipToToken : Nat → ScanM Unit
  | 0 => pure ()
  | fuel + 1 => do
    let s ← get
    if s.column == 0 && s.rest.head? == some '\ufeff' then skip
    let tabs := !s.outer.isEmpty || !s.keyAllowed
    let _ ← takeChars fun c => c == ' ' || (tabs && c == '\t')
    if (← rest).head? == some '#' then
      let _ ← takeChars (!isBreak ·)
    if startsBreak (← rest) then
      skipBreak
      if !(← inFlow) then allowKey true
      skipToToken fuel

/-! ### Scalars -/

/-- The line breaks that a folded text keeps: one break alone becomes a space. -/
def folded (first : List Char) (more : List Char) : List Char :=
  match first with
  | '\n' :: _ => if more.isEmpty then [' '] else more
  | _ => first ++ more

/-- What separates two parts of a scalar on one or several lines: the blanks between them or, if a line
ended, the first break and the others. -/
structure Gap where
  blanks : List Char
  lineEnded : Bool
  first : List Char
  more : List Char

/-- The text of a gap. -/
def Gap.text (g : Gap) : List Char := if g.lineEnded then folded g.first g.more else g.blanks

/-- Takes in blanks and line breaks. `limit` is a column left of which no tab may stand. -/
def takeGap (limit : Int) (g : Gap) : Nat → ScanM Gap
  | 0 => pure g
  | fuel + 1 => do
    match ← rest with
    | [] => pure g
    | c :: _ =>
      if isSpaceOrTab c then
        require !(g.lineEnded && (← get).column < limit && c == '\t')
        skip
        takeGap limit (if g.lineEnded then g else { g with blanks := g.blanks ++ [c] }) fuel
      else if isBreak c then
        skipBreak
        takeGap limit
          (if g.lineEnded then { g with more := g.more ++ [breakChar c] }
            else { g with blanks := [], lineEnded := true, first := [breakChar c] }) fuel
      else pure g

/-- No gap yet. -/
def Gap.start : Gap := ⟨[], false, [], []⟩

/-- The value of a digit of base sixteen. -/
def hexValue? (c : Char) : Option Nat :=
  if '0' ≤ c ∧ c ≤ '9' then some (c.toNat - 48)
  else if 'a' ≤ c ∧ c ≤ 'f' then some (c.toNat - 87)
  else if 'A' ≤ c ∧ c ≤ 'F' then some (c.toNat - 55)
  else none

/-- The number that the next `n` characters write to base sixteen. -/
def takeHex (n : Nat) : ScanM Nat := do
  let digits := (← rest).take n
  require (digits.length == n)
  match digits.foldlM (fun v c => (hexValue? c).map (v * 16 + ·)) 0 with
  | some v => do skipN n; return v
  | none => malformed

/-- The character that an escape writes, `c` being what follows the backslash. -/
def escapedChar (c : Char) : ScanM Char := do
  let one (n : Nat) : ScanM Char := do skipN 2; return Char.ofNat n
  let coded (digits : Nat) : ScanM Char := do
    skipN 2
    let v ← takeHex digits
    require (decide (v.isValidChar))
    return Char.ofNat v
  match c with
  | '0' => one 0
  | 'a' => one 7
  | 'b' => one 8
  | 't' | '\t' => one 9
  | 'n' => one 10
  | 'v' => one 11
  | 'f' => one 12
  | 'r' => one 13
  | 'e' => one 27
  | ' ' => one 32
  | '"' => one 34
  | '/' => one 47
  | '\\' => one 92
  | 'N' => one 0x85
  | '_' => one 0xA0
  | 'L' => one 0x2028
  | 'P' => one 0x2029
  | 'x' => coded 2
  | 'u' => coded 4
  | 'U' => coded 8
  | _ => malformed

/-- The characters of a quoted scalar up to the next blank, line break or closing quote, and whether an
escaped line break ended them. -/
def takeQuotedPart (single : Bool) : Nat → ScanM (List Char × Bool)
  | 0 => pure ([], false)
  | fuel + 1 => do
    match ← rest with
    | [] => pure ([], false)
    | c :: cs =>
      if isSpaceOrTab c || isBreak c then pure ([], false)
      else if single then
        if c == '\'' then
          if cs.head? == some '\'' then
            skipN 2
            let (more, ended) ← takeQuotedPart single fuel
            return ('\'' :: more, ended)
          else pure ([], false)
        else
          skip
          let (more, ended) ← takeQuotedPart single fuel
          return (c :: more, ended)
      else if c == '"' then pure ([], false)
      else if c == '\\' then
        if startsBreak cs then
          skip
          skipBreak
          return ([], true)
        else
          match cs with
          | [] => malformed
          | e :: _ =>
            let v ← escapedChar e
            let (more, ended) ← takeQuotedPart single fuel
            return (v :: more, ended)
      else
        skip
        let (more, ended) ← takeQuotedPart single fuel
        return (c :: more, ended)

/-- The rest of a quoted scalar after its opening quote, up to its closing one. -/
def takeQuoted (single : Bool) : Nat → ScanM (List Char)
  | 0 => malformed
  | fuel + 1 => do
    let s ← get
    require !(s.column == 0 && startsMarker s.rest)
    require !s.rest.isEmpty
    let (part, ended) ← takeQuotedPart single s.rest.length
    let now ← rest
    if now.head? == some (if single then '\'' else '"') then
      skip
      return part
    else
      let gap ← takeGap (-2) { Gap.start with lineEnded := ended } (now.length + 1)
      return part ++ gap.text ++ (← takeQuoted single fuel)

/-- Whether a plain scalar ends before what is left. -/
def endsPlain (flow : Bool) : List Char → Bool
  | [] => true
  | c :: cs =>
    isSpaceOrTab c || isBreak c || (c == ':' && endsWord cs) ||
      (flow && (c == ',' || c == '[' || c == ']' || c == '\x7b' || c == '\x7d'))

/-- Whether a colon of a plain scalar in a flow collection stands before an indicator. -/
def badColon : List Char → Bool
  | ':' :: c :: _ => c == ',' || c == '?' || c == '[' || c == ']' || c == '\x7b' || c == '\x7d'
  | _ => false

/-- A plain scalar from here on, after a gap; `limit` is the column left of which it ends. The result says
too whether a line ended after its last part. -/
def takePlain (limit : Int) (gap : Gap) : Nat → ScanM (List Char × Bool)
  | 0 => pure ([], gap.lineEnded)
  | fuel + 1 => do
    let s ← get
    let flow := !s.outer.isEmpty
    if (s.column == 0 && startsMarker s.rest) || s.rest.head? == some '#' then
      return ([], gap.lineEnded)
    let part ← takeWhile (fun cs => !endsPlain flow cs && !(flow && badColon cs)) s.rest.length
    let now ← rest
    require !(flow && badColon now)
    let here := if part.isEmpty then [] else gap.text ++ part
    let gap := if part.isEmpty then gap else Gap.start
    if !(startsBlank now || startsBreak now) then return (here, gap.lineEnded)
    let gap ← takeGap limit gap (now.length + 1)
    if !flow && (← get).column < limit then return (here, gap.lineEnded)
    let (more, ended) ← takePlain limit gap fuel
    return (here ++ more, ended)

/-- The column and the line breaks before the next line of a block scalar. `indent` is 0 while the column
is still to be found. -/
def takeBlockBreaks (indent widest : Nat) : Nat → ScanM (Nat × List Char)
  | 0 => pure (indent, [])
  | fuel + 1 => do
    let inside (s : Scanner) : Bool := indent == 0 || s.column < indent
    let _ ← takeWhileInside indent (← rest).length
    let s ← get
    let widest := max widest s.column
    require !(inside s && s.rest.head? == some '\t')
    match s.rest with
    | c :: _ =>
      if isBreak c then
        skipBreak
        let (column, more) ← takeBlockBreaks indent widest fuel
        return (column, breakChar c :: more)
      else return (settle s widest, [])
    | [] => return (settle s widest, [])
where
  /-- Passes over spaces up to the given column. -/
  takeWhileInside (indent : Nat) : Nat → ScanM Unit
    | 0 => pure ()
    | fuel + 1 => do
      let s ← get
      if (indent == 0 || s.column < indent) && s.rest.head? == some ' ' then
        skip
        takeWhileInside indent fuel
  /-- The column of a block scalar whose text begins at column `widest`. -/
  settle (s : Scanner) (widest : Nat) : Nat :=
    if indent != 0 then indent else max (max widest (s.indent + 1).toNat) 1

/-- The lines of a block scalar. `lead` is the break that ended the line before, `trail` the breaks after
that, `blankLead` says whether that line began with a blank. -/
def takeBlockLines (literal : Bool) (indent : Nat) (lead trail : List Char) (blankLead : Bool) :
    Nat → ScanM (List Char × List Char × List Char)
  | 0 => pure ([], lead, trail)
  | fuel + 1 => do
    let s ← get
    if s.column != indent || s.rest.isEmpty then return ([], lead, trail)
    let blank := startsBlank s.rest
    let between :=
      if !literal && lead.head? == some '\n' && !blankLead && !blank then
        (if trail.isEmpty then [' '] else []) ++ trail
      else lead ++ trail
    let text ← takeChars (!isBreak ·)
    let lead ← match ← rest with
      | c :: _ => do skipBreak; pure [breakChar c]
      | [] => pure []
    let (_, trail) ← takeBlockBreaks indent 0 ((← rest).length + 1)
    let (more, lead, trail) ← takeBlockLines literal indent lead trail blank fuel
    return (between ++ text ++ more, lead, trail)

/-- How the line breaks at the end of a block scalar are kept. -/
inductive Chomping where
  | strip
  | clip
  | keep
deriving DecidableEq

/-- The header of a block scalar: its chomping and the width of its indentation, if given. -/
def takeBlockHeader : ScanM (Chomping × Option Nat) := do
  let chomp : ScanM (Option Chomping) := do
    match (← rest).head? with
    | some '+' => do skip; return some .keep
    | some '-' => do skip; return some .strip
    | _ => return none
  let width : ScanM (Option Nat) := do
    match (← rest).head? with
    | some c =>
      if c.isDigit then
        require (c != '0')
        skip
        return some (c.toNat - 48)
      else return none
    | none => return none
  match ← chomp with
  | some c => return (c, ← width)
  | none =>
    match ← width with
    | some w => return ((← chomp).getD .clip, some w)
    | none => return (.clip, none)

/-- A block scalar after its indicator. -/
def takeBlock (literal : Bool) : ScanM (List Char) := do
  let (chomping, width) ← takeBlockHeader
  let _ ← takeChars isSpaceOrTab
  if (← rest).head? == some '#' then
    let _ ← takeChars (!isBreak ·)
  require (endsLine (← rest))
  if startsBreak (← rest) then skipBreak
  let s ← get
  let given := match width with
    | some w => if 0 ≤ s.indent then s.indent.toNat + w else w
    | none => 0
  let (indent, trail) ← takeBlockBreaks given 0 (s.rest.length + 1)
  let (text, lead, trail) ← takeBlockLines literal indent [] trail false (s.rest.length + 1)
  return match chomping with
    | .strip => text
    | .clip => text ++ lead
    | .keep => text ++ lead ++ trail

/-! ### Properties and directives -/

/-- The name of an anchor or an alias after its indicator. -/
def takeName : ScanM String := do
  let name ← takeChars isWordChar
  let now ← rest
  require (!name.isEmpty && (endsWord now || now.head?.any fun c =>
    c == '?' || c == ':' || c == ',' || c == ']' || c == '\x7d' || c == '%' || c == '@' || c == '\x60'))
  return String.ofList name

/-- The number of bytes of a character whose first byte is given. -/
def byteWidth (b : Nat) : Nat :=
  if b < 0x80 then 1 else if 0xC0 ≤ b && b < 0xE0 then 2 else if 0xE0 ≤ b && b < 0xF0 then 3
  else if 0xF0 ≤ b && b < 0xF8 then 4 else 0

/-- A byte written as a percent sign and two digits. -/
def takeEscapedByte : ScanM Nat := do
  require ((← rest).head? == some '%')
  skip
  takeHex 2

/-- A byte that continues a character, written like that. -/
def takeContinuation : ScanM Nat := do
  let b ← takeEscapedByte
  require (0x80 ≤ b && b < 0xC0)
  return b

/-- A character written as escaped bytes. Only the leading bits of each are checked. -/
def takeEscapedChar : ScanM TagBytes := do
  let first ← takeEscapedByte
  let width := byteWidth first
  require (width != 0)
  let more ← (List.replicate (width - 1) ()).mapM fun _ => takeContinuation
  return (first :: more).map UInt8.ofNat

/-- The bytes of a tag; in a verbatim tag and in a directive brackets and commas may stand too. -/
def takeTagChars (verbatim : Bool) : Nat → ScanM TagBytes
  | 0 => pure []
  | fuel + 1 => do
    match ← rest with
    | [] => pure []
    | c :: _ =>
      if c == '%' then
        let here ← takeEscapedChar
        return here ++ (← takeTagChars verbatim fuel)
      else if isWordChar c || ";/?:@&=+$.!~*'()".toList.contains c ||
          (verbatim && (c == ',' || c == '[' || c == ']')) then
        skip
        return TagBytes.ofText (String.singleton c) ++ (← takeTagChars verbatim fuel)
      else pure []

/-- The bytes before the first zero byte, which ends a tag. -/
def beforeZero (bs : TagBytes) : TagBytes := bs.takeWhile (· != 0)

/-- A tag handle: an exclamation mark, or a word between two of them. -/
def takeHandle (directive : Bool) : ScanM (List Char) := do
  require ((← rest).head? == some '!')
  skip
  let word ← takeChars isWordChar
  if (← rest).head? == some '!' then
    skip
    return '!' :: word ++ ['!']
  else
    require (!directive || word.isEmpty)
    return '!' :: word

/-- A tag. -/
def takeTag : ScanM Token := do
  let (handle, rest_) ← match ← rest with
    | '!' :: '<' :: _ => do
      skipN 2
      let bytes ← takeTagChars true (← rest).length
      require (!bytes.isEmpty && (← rest).head? == some '>')
      skip
      pure ("", beforeZero bytes)
    | _ => do
      let handle ← takeHandle false
      let more ← takeTagChars false (← rest).length
      if 1 < handle.length && handle.getLast? == some '!' then
        require !more.isEmpty
        pure (String.ofList handle, beforeZero more)
      else
        let bytes := beforeZero (TagBytes.ofText (String.ofList (handle.drop 1)) ++ more)
        pure (if bytes.isEmpty then ("", TagBytes.ofText "!") else ("!", bytes))
  let now ← rest
  require (endsWord now || ((← inFlow) && now.head? == some ','))
  return .tag handle rest_

/-- The digits of a version number. -/
def takeVersion : ScanM Nat := do
  let digits ← takeChars Char.isDigit
  require (!digits.isEmpty && digits.length ≤ 9)
  return (String.ofList digits).toNat?.getD 0

/-- A directive. -/
def takeDirective : ScanM Token := do
  skip
  let name ← takeChars isWordChar
  require (endsWord (← rest))
  let t ← match String.ofList name with
    | "YAML" => do
      let _ ← takeChars isSpaceOrTab
      let major ← takeVersion
      require ((← rest).head? == some '.')
      skip
      pure (Token.versionDirective major (← takeVersion))
    | "TAG" => do
      let _ ← takeChars isSpaceOrTab
      let handle ← takeHandle true
      require (startsBlank (← rest))
      let _ ← takeChars isSpaceOrTab
      let start ← takeTagChars true (← rest).length
      require (!start.isEmpty && endsWord (← rest))
      pure (Token.tagDirective (String.ofList handle) (beforeZero start))
    | _ => malformed
  let _ ← takeChars isSpaceOrTab
  if (← rest).head? == some '#' then
    let _ ← takeChars (!isBreak ·)
  require (endsLine (← rest))
  if startsBreak (← rest) then skipBreak
  return t

/-! ### One token after the other -/

/-- Begins a flow collection. -/
def openFlow (t : Token) : ScanM Unit := do
  noteCandidate
  modify fun s => { s with outer := s.candidate :: s.outer, candidate := .none, keyAllowed := true }
  skip
  emit t

/-- Ends a flow collection. -/
def closeFlow (t : Token) : ScanM Unit := do
  dropCandidate
  modify fun s => match s.outer with
    | c :: outer => { s with candidate := c, outer := outer, keyAllowed := false }
    | [] => { s with keyAllowed := false }
  skip
  emit t

/-- A token that may begin a key: what `take` takes in. -/
def withCandidate (take : ScanM Token) : ScanM Unit := do
  noteCandidate
  allowKey false
  emit (← take)

/-- A marker of the beginning or the end of a document, or a directive. -/
def outside (take : ScanM Token) : ScanM Unit := do
  closeBlocks (-1)
  dropCandidate
  allowKey false
  emit (← take)

/-- An entry of a block sequence. -/
def takeEntry : ScanM Unit := do
  let s ← get
  if s.outer.isEmpty then
    require s.keyAllowed
    openBlock s.column none .blockSequenceStart
  dropCandidate
  allowKey true
  skip
  emit .blockEntry

/-- The indicator of a key. -/
def takeKey : ScanM Unit := do
  let s ← get
  if s.outer.isEmpty then
    require s.keyAllowed
    openBlock s.column none .blockMappingStart
  dropCandidate
  allowKey s.outer.isEmpty
  skip
  emit .key

/-- The indicator of a value. If the candidate is a key, its tokens are put in front of it. -/
def takeValue : ScanM Unit := do
  let s ← get
  if s.candidate.possible then
    emitAt s.candidate.number .key
    openBlock s.candidate.column (some s.candidate.number) .blockMappingStart
    modify fun s => { s with candidate := { s.candidate with possible := false }, keyAllowed := false }
  else
    if s.outer.isEmpty then
      require s.keyAllowed
      openBlock s.column none .blockMappingStart
    allowKey s.outer.isEmpty
  skip
  emit .value

/-- Whether a plain scalar begins with what is left. -/
def startsPlain (flow : Bool) : List Char → Bool
  | [] => false
  | c :: cs =>
    !(isSpaceOrTab c || isBreak c || "-?:,[]\x7b\x7d#&*!|>'\"%@\x60".toList.contains c) ||
      (c == '-' && !startsBlank cs) || (!flow && (c == '?' || c == ':') && !endsWord cs)

/-- Takes in the next token; the result says whether there was one. -/
def next : ScanM Bool := do
  skipToToken ((← rest).length + 1)
  expireCandidates
  closeBlocks ((← get).column : Nat)
  let s ← get
  let flow := !s.outer.isEmpty
  match s.rest with
  | [] =>
    closeBlocks (-1)
    dropCandidate
    return false
  | c :: cs =>
    let fuel := s.rest.length + 1
    if s.column == 0 && c == '%' then outside takeDirective
    else if s.column == 0 && startsMarker s.rest then
      outside do
        skipN 3
        return if c == '-' then .documentStart else .documentEnd
    else if c == '[' then openFlow .flowSequenceStart
    else if c == '\x7b' then openFlow .flowMappingStart
    else if c == ']' then closeFlow .flowSequenceEnd
    else if c == '\x7d' then closeFlow .flowMappingEnd
    else if c == ',' then
      dropCandidate
      allowKey true
      skip
      emit .flowEntry
    else if c == '-' && endsWord cs then takeEntry
    else if c == '?' && (flow || endsWord cs) then takeKey
    else if c == ':' && (flow || endsWord cs) then takeValue
    else if c == '*' then withCandidate do skip; return .alias (← takeName)
    else if c == '&' then withCandidate do skip; return .anchor (← takeName)
    else if c == '!' then withCandidate takeTag
    else if (c == '|' || c == '>') && !flow then
      dropCandidate
      allowKey true
      skip
      emit (.scalar (String.ofList (← takeBlock (c == '|'))) .quoted)
    else if c == '\'' || c == '"' then
      withCandidate do
        skip
        return .scalar (String.ofList (← takeQuoted (c == '\'') fuel)) .quoted
    else if startsPlain flow s.rest then
      noteCandidate
      allowKey false
      let (text, ended) ← takePlain (s.indent + 1) Gap.start fuel
      emit (.scalar (String.ofList text) .plain)
      if ended then allowKey true
    else malformed
    return true

/-- Takes in all tokens. -/
def all : Nat → ScanM Unit
  | 0 => malformed
  | fuel + 1 => do if ← next then all fuel

end ScanM

/-- The tokens of a text, if they are well-formed. -/
def Token.ofText? (s : String) : Option (List Token) :=
  let chars := s.toList
  if chars.all isPermitted then
    let start : Scanner := ⟨chars, 0, 0, 0, .none, [], -1, [], true, #[]⟩
    ((ScanM.all (2 * chars.length + 4)).run start).map fun (_, s) => s.tokens.toList
  else none

end Bindery.Yaml
