import Bindery.Yaml.Token

/-! # Nodes of YAML

The tree that tokens describe, before tags are interpreted and aliases are followed. An anchor gives its
node a number: that of the different names anchored before it. An alias stands for the number that its name
has where the alias is met, and so for the last node of the document with that number. -/

namespace Bindery.Yaml

/-- A node of a document. Its tag is the full one, if it has any. -/
inductive Node where
  | scalar (tag : Option TagBytes) (style : Style) (text : String)
  | sequence (tag : Option TagBytes) (items : List Node)
  | mapping (tag : Option TagBytes) (entries : List (Node × Node))
  | alias (number : Nat)
deriving Repr, Inhabited

/-- A node without text. -/
def Node.void : Node := .scalar none .plain ""

/-- What has been read of a document: the tokens that are left, the tag handles and the anchors. -/
structure Composer where
  tokens : List Token
  handles : List (String × TagBytes)
  /-- The numbers that names have now. -/
  anchors : List (String × Nat)
  /-- The numbers given so far, the last one first. -/
  given : List Nat
  /-- The anchored nodes, each with the count of numbers given before its own. -/
  nodes : List (Nat × Node)
  /-- The number of events: one for a scalar or an alias, two for a collection. -/
  events : Nat
deriving Inhabited

/-- A step of composing nodes; it fails where the tokens are malformed. -/
abbrev ComposeM := StateT Composer Option

namespace ComposeM

/-- Fails. -/
def malformed {α : Type} : ComposeM α := fun _ => none

/-- The next token. -/
def peek : ComposeM (Option Token) := return (← get).tokens.head?

/-- Passes over the next token. -/
def advance : ComposeM Unit := modify fun s => { s with tokens := s.tokens.drop 1 }

/-- Passes over the next token if it is the given one, and says whether it was. -/
def accept (t : Token) : ComposeM Bool := do
  if (← peek) == some t then
    advance
    return true
  else return false

/-- Passes over the given token; fails if another comes next. -/
def expect (t : Token) : ComposeM Unit := do if !(← accept t) then malformed

/-- Counts events. -/
def count (n : Nat) : ComposeM Unit := modify fun s => { s with events := s.events + n }

/-- An empty scalar that no token stands for. -/
def void : ComposeM Node := do
  count 1
  return .void

/-- Whether the next token is one of several, or there is none. -/
def at_ (ts : List Token) : ComposeM Bool := do
  match ← peek with
  | none => return true
  | some t => return ts.contains t

/-- Gives an anchor its number; the result is the count of numbers given before it. -/
def noteAnchor (name : String) : ComposeM Nat := do
  let s ← get
  let number := s.anchors.length
  let anchors := if s.anchors.any (·.1 == name)
    then s.anchors.map fun a => if a.1 == name then (name, number) else a
    else s.anchors ++ [(name, number)]
  set { s with anchors := anchors, given := number :: s.given }
  return s.given.length

/-- The full tag that a handle and the rest of a tag write. -/
def fullTag (handle : String) (rest : TagBytes) : ComposeM TagBytes := do
  if handle == "" then return rest
  match (← get).handles.lookup handle with
  | some start => return start ++ rest
  | none => malformed

/-- The properties of a node: its anchor and its tag, in either order. -/
def properties : ComposeM (Option String × Option TagBytes) := do
  let anchor? : ComposeM (Option String) := do
    match ← peek with
    | some (.anchor name) => do advance; return some name
    | _ => return none
  let tag? : ComposeM (Option TagBytes) := do
    match ← peek with
    | some (.tag handle rest) => do advance; return some (← fullTag handle rest)
    | _ => return none
  match ← anchor? with
  | some a => return (some a, ← tag?)
  | none =>
    match ← tag? with
    | some t => return (← anchor?, some t)
    | none => return (none, none)

/-- The tokens that end an entry of a block mapping. -/
def entryEnds : List Token := [.key, .value, .blockEnd]

mutual
/-- A node. In a block context block collections may begin it; as a value of a block mapping, so may a
sequence that is not indented. -/
def node (block unindented : Bool) : Nat → ComposeM Node
  | 0 => malformed
  | fuel + 1 => do
    match ← peek with
    | some (.alias name) =>
      advance
      count 1
      match (← get).anchors.lookup name with
      | some number => return .alias number
      | none => malformed
    | _ =>
      let (anchor, tag) ← properties
      let place ← match anchor with
        | some name => do pure (some (← noteAnchor name))
        | none => pure none
      let n ← content block unindented (anchor.isSome || tag.isSome) tag fuel
      match place with
      | some k => modify fun s => { s with nodes := (k, n) :: s.nodes }
      | none => pure ()
      return n
/-- The content of a node with the given tag. -/
def content (block unindented hasProperties : Bool) (tag : Option TagBytes) : Nat → ComposeM Node
  | 0 => malformed
  | fuel + 1 => do
    match ← peek with
    | some (.scalar text style) =>
      advance
      count 1
      return .scalar tag style text
    | some .flowSequenceStart =>
      advance
      count 2
      return .sequence tag (← flowSequence true fuel)
    | some .flowMappingStart =>
      advance
      count 2
      return .mapping tag (← flowMapping true fuel)
    | some t =>
      if unindented && t == .blockEntry then
        count 2
        return .sequence tag (← unindentedSequence fuel)
      else if block && t == .blockSequenceStart then
        advance
        count 2
        return .sequence tag (← blockSequence fuel)
      else if block && t == .blockMappingStart then
        advance
        count 2
        return .mapping tag (← blockMapping fuel)
      else absent fuel
    | none => absent fuel
where
  /-- No content: only properties make it a node. -/
  absent (_fuel : Nat) : ComposeM Node := do
    if hasProperties then
      count 1
      return .scalar tag .plain ""
    else malformed
/-- The items of a block sequence. -/
def blockSequence : Nat → ComposeM (List Node)
  | 0 => malformed
  | fuel + 1 => do
    if ← accept .blockEntry then
      let item ← if ← at_ [.blockEntry, .blockEnd] then void else node true false fuel
      return item :: (← blockSequence fuel)
    else
      expect .blockEnd
      return []
/-- The items of a sequence that is not indented. -/
def unindentedSequence : Nat → ComposeM (List Node)
  | 0 => malformed
  | fuel + 1 => do
    if ← accept .blockEntry then
      let item ← if ← at_ (.blockEntry :: entryEnds) then void else node true false fuel
      return item :: (← unindentedSequence fuel)
    else return []
/-- The entries of a block mapping. -/
def blockMapping : Nat → ComposeM (List (Node × Node))
  | 0 => malformed
  | fuel + 1 => do
    if ← accept .key then
      let key ← if ← at_ entryEnds then void else node true true fuel
      let value ← if ← accept .value then
          if ← at_ entryEnds then void else node true true fuel
        else void
      return (key, value) :: (← blockMapping fuel)
    else
      expect .blockEnd
      return []
/-- The items of a flow sequence; a key makes a mapping of one entry. What follows an indicator of a key
without a key is passed over, whatever it is. -/
def flowSequence (first : Bool) : Nat → ComposeM (List Node)
  | 0 => malformed
  | fuel + 1 => do
    if ← accept .flowSequenceEnd then return []
    if !first then expect .flowEntry
    if ← accept .flowSequenceEnd then return []
    let item ← if ← accept .key then
        let key ← if ← at_ [.value, .flowEntry, .flowSequenceEnd] then do advance; void
          else node false false fuel
        let value ← if ← accept .value then
            if ← at_ [.flowEntry, .flowSequenceEnd] then void else node false false fuel
          else void
        count 2
        pure (Node.mapping none [(key, value)])
      else node false false fuel
    return item :: (← flowSequence false fuel)
/-- The entries of a flow mapping. -/
def flowMapping (first : Bool) : Nat → ComposeM (List (Node × Node))
  | 0 => malformed
  | fuel + 1 => do
    if ← accept .flowMappingEnd then return []
    if !first then expect .flowEntry
    if ← accept .flowMappingEnd then return []
    let entry ← if ← accept .key then
        let key ← if ← at_ [.value, .flowEntry, .flowMappingEnd] then void else node false false fuel
        let value ← if ← accept .value then
            if ← at_ [.flowEntry, .flowMappingEnd] then void else node false false fuel
          else void
        pure (key, value)
      else
        let key ← node false false fuel
        pure (key, ← void)
    return entry :: (← flowMapping false fuel)
end

/-- The directives before a document. -/
def directives (version : Bool) : Nat → ComposeM Unit
  | 0 => malformed
  | fuel + 1 => do
    match ← peek with
    | some (.versionDirective major minor) =>
      if version || major != 1 || (minor != 1 && minor != 2) then malformed
      advance
      directives true fuel
    | some (.tagDirective handle start) =>
      if (← get).handles.any (·.1 == handle) then malformed
      modify fun s => { s with handles := (handle, start) :: s.handles }
      advance
      directives version fuel
    | _ => pure ()

/-- Adds the handles that need no directive. -/
def defaultHandles : ComposeM Unit := modify fun s => { s with
  handles := s.handles ++ [("!", .ofText "!"), ("!!", .ofText "tag:yaml.org,2002:")] }

/-- Passes over markers of the end of a document. -/
def documentEnds : Nat → ComposeM Unit
  | 0 => pure ()
  | fuel + 1 => do if ← accept .documentEnd then documentEnds fuel

/-- The only document of a text, or nothing if the text holds none. A second document is refused. -/
def document : ComposeM (Option Node) := do
  let fuel := 4 * (← get).tokens.length + 8
  match ← peek with
  | none => return none
  | some t =>
    let explicit := match t with
      | .versionDirective .. | .tagDirective .. | .documentStart => true
      | _ => false
    let root ← if explicit then do
        directives false fuel
        defaultHandles
        expect .documentStart
        match ← peek with
        | none | some (.versionDirective ..) | some (.tagDirective ..) | some .documentStart
        | some .documentEnd => void
        | _ => node true false fuel
      else do
        defaultHandles
        node true false fuel
    documentEnds fuel
    if (← get).tokens.isEmpty then return some root else malformed

end ComposeM

/-- The anchored nodes by their numbers. `given` holds the numbers, the last one first, and `nodes` the
nodes by the count of numbers before their own. -/
def numberedNodes (nodes : List (Nat × Node)) : (given : List Nat) → List (Nat × Node)
  | [] => []
  | number :: earlier =>
    match nodes.lookup earlier.length with
    | some n => (number, n) :: numberedNodes nodes earlier
    | none => numberedNodes nodes earlier

/-- A document: its root, if it is not empty, the anchored nodes and the number of events. Of two nodes with
the same number, the first in the list is meant. -/
structure Document where
  root : Option Node
  nodes : List (Nat × Node)
  events : Nat
deriving Inhabited

/-- The document that a text holds, if it is well-formed and holds no second one. -/
def Document.ofText? (s : String) : Option Document := do
  let tokens ← Token.ofText? s
  let (root, c) ← ComposeM.document.run ⟨tokens, [], [], [], [], 0⟩
  return ⟨root, numberedNodes c.nodes c.given, c.events⟩

end Bindery.Yaml
