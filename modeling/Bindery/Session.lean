import Bindery.Catalog

/-! # Sessions

A session is the state of one run for one target: its catalog, which functions it has decided to leave out,
and the diagnostics of the functions that could not be generated. A decision is taken once for each name
and then stands, also when the catalog changes. -/

namespace Bindery

/-- A function that could not be generated, and why. -/
structure Diagnostic where
  function : String
  message : String
deriving Repr, DecidableEq, Inhabited

/-- A diagnostic as it is shown. -/
def Diagnostic.show (d : Diagnostic) : String := d.function ++ ": " ++ d.message

/-- The state of a run. -/
structure Session where
  catalog : Catalog
  /-- The name of the target, which functions may ask to be left out of. -/
  target : String
  config : Config
  /-- Whether a function is left out, for the names that have been asked about. -/
  decisions : Entries Bool
  /-- The diagnostics, the first recorded first. -/
  diagnostics : List Diagnostic
deriving DecidableEq, Inhabited

namespace Session

/-- A session that has decided and recorded nothing. -/
def start (catalog : Catalog) (target : String) (config : Config) : Session := ⟨catalog, target, config, [], []⟩

/-- Whether the catalog says now that a function is left out; an unknown function is. -/
def leavesOutNow (s : Session) (function : String) : Bool :=
  match s.catalog.function? function with
  | some f => f.isIgnoredBy s.target
  | none => true

/-- Whether a function is left out. -/
def leavesOut (s : Session) (function : String) : Session × Bool :=
  match Entries.get? s.decisions function with
  | some decision => (s, decision)
  | none =>
    let decision := s.leavesOutNow function
    ({ s with decisions := Entries.set s.decisions function decision }, decision)

/-- The names that are not left out. -/
def keep (s : Session) : List String → Session × List String
  | [] => (s, [])
  | name :: rest =>
    match s.leavesOut name with
    | (s, true) => s.keep rest
    | (s, false) =>
      let (s, kept) := s.keep rest
      (s, name :: kept)

/-- The functions to generate, in order of first mention. -/
def generatable (s : Session) : Session × List String := s.keep (Entries.names s.catalog.functions)

/-- Records that a function could not be generated. -/
def record (s : Session) (function : String) (e : Error) : Session :=
  { s with diagnostics := s.diagnostics ++ [⟨function, e.message⟩] }

end Session

/-- Puts an indentation in front of every line that is not blank. -/
def indentLines (indent text : String) : String :=
  String.join ((Text.lines text).map fun line => if Text.isBlankText line then line else indent ++ line)

end Bindery
