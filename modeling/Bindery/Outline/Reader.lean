import Bindery.Attr.Value
import Bindery.Outline.Scan

/-! # From tokens to trees

A reader keeps a stack of frames, the innermost first. A frame holds the keys of one line (none for an
anonymous frame) and the value gathered for them. Below all lies the root, whose value is the tree; a new
reader has one anonymous frame above it, for the block that the last token closes. A key list stores its
value under each of its keys. -/

namespace Bindery.Outline
open Attr (Value Tree)

/-- The keys of a line and the value gathered for them so far. -/
structure Frame where
  keys : List String
  value : Option Value
deriving Repr, DecidableEq, Inhabited

/-- A frame that belongs to the keys of a line. -/
def Frame.isNamed (f : Frame) : Bool := !f.keys.isEmpty

/-- The frame of a block whose first line has not been read. -/
def Frame.anonymous : Frame := ⟨[], none⟩

/-- The frame of a line's keys. -/
def Frame.named (keys : List String) : Frame := ⟨keys, some .empty⟩

/-- A reader in the middle of its tokens: the frames above the root, the innermost first, and the root's
value. -/
structure Reader where
  frames : List Frame
  root : Option Value
deriving Repr, DecidableEq, Inhabited

namespace Reader

/-- A reader that has read nothing. -/
def start : Reader := ⟨[.anonymous], some .empty⟩

/-- The value of the innermost frame. -/
def top (r : Reader) : Option Value :=
  match r.frames with
  | [] => r.root
  | f :: _ => f.value

/-- Replaces the value of the innermost frame. -/
def setTop (r : Reader) (v : Value) : Reader :=
  match r.frames with
  | [] => ⟨[], some v⟩
  | f :: rest => ⟨{ f with value := some v } :: rest, r.root⟩

/-- Opens a frame. -/
def push (r : Reader) (f : Frame) : Reader := ⟨f :: r.frames, r.root⟩

/-- The failure of a token that cannot be placed. -/
def misplaced (t : Token) : Error := .unexpectedToken t.show

/-- Stores the value of a closed frame under each of its keys in the innermost frame; fails if that frame
holds something other than a mapping. -/
def attach (f : Frame) (r : Reader) : Except Error Reader :=
  let value := f.value.getD .empty
  match r.top.getD .empty with
  | .map entries => .ok (r.setTop (.map (Entries.setAll entries (f.keys.map fun k => (k, value)))))
  | _ => .error (misplaced (.key (f.keys.getLast?.toList)))

/-- Takes in a token. The reader that results goes on also after a failure: a frame that cannot be stored
is lost. -/
def feed (r : Reader) : Token → Reader × Except Error Unit
  | .indent => (r.push .anonymous, .ok ())
  | .text s => (r.setTop (.text s), .ok ())
  | .key keys =>
    match r.frames with
    | [] => (r, .error (misplaced (.key keys)))
    | f :: rest =>
      let r : Reader := ⟨rest, r.root⟩
      if f.isNamed then
        match attach f r with
        | .ok r => (r.push (.named keys), .ok ())
        | .error e => (r, .error e)
      else (r.push (.named keys), .ok ())
  | .dedent =>
    match r.frames with
    | [] => (r, .error (misplaced .dedent))
    | f :: rest =>
      let r : Reader := ⟨rest, r.root⟩
      if f.isNamed then
        match attach f r with
        | .ok r => (r, .ok ())
        | .error e => (r, .error e)
      else
        match f.value with
        | some v => (r.setTop v, .ok ())
        | none => (r, .ok ())

/-- Takes in tokens up to the first failure. -/
def feedAll (r : Reader) : List Token → Except Error Reader
  | [] => .ok r
  | t :: ts =>
    match r.feed t with
    | (r, .ok ()) => feedAll r ts
    | (_, .error e) => .error e

/-- The frames still open at the end. An anonymous frame that is alone and empty counts as closed. -/
def openFrames (r : Reader) : List Frame :=
  match r.frames with
  | [f] => if f.isNamed || f.value.isSome then [f] else []
  | frames => frames

/-- The tree that was read, if every block is closed and the whole is a mapping. -/
def finish (r : Reader) : Except Error Tree :=
  match r.openFrames with
  | [] =>
    match r.root with
    | none => .ok []
    | some (.map entries) => .ok entries
    | some v => .error (.unexpectedToken s!"top-level {v.kind} value")
  | frames => .error (.unexpectedToken s!"end of input with {frames.length} open block(s)")

end Reader

/-- The tree that tokens describe. -/
def readTokens (ts : List Token) : Except Error Tree := do (← Reader.start.feedAll ts).finish

/-- The tree that a scan describes; a failure to place a token comes before a later failure of the scan. -/
def Scan.read (s : Scan) : Except Error Tree := do
  let r ← Reader.start.feedAll s.tokens
  match s.failure with
  | some e => .error e
  | none => r.finish

/-- The tree that lines describe; `name` is what unreadable bytes are reported of. -/
def readLines (name : String) (ls : List Line) : Except Error Tree := (scanLines name ls).read

/-- The tree that a text describes. -/
def read (s : String) : Except Error Tree := (scan s).read

end Bindery.Outline
