import Bindery.Stencil.Scope

/-! # Helpers

A helper makes a datum of its arguments, or decides whether the body of its block is shown and in which
scopes, or that what stands for the other condition is shown. An argument that leads to nothing counts as
null, except for the helpers that make a datum or a truth value of a fixed number of arguments without looking
anything up: for these it must lead to something. -/

namespace Bindery.Stencil

/-- What a helper is called with. -/
structure Request where
  name : String
  given : List (Option Datum)
  named : List (String × Option Datum)
  binders : Binders
  hasBody : Bool
  hasOtherwise : Bool
deriving Repr, Inhabited

/-- What a helper results in. -/
inductive Outcome where
  | datum (d : Datum)
  /-- A truth value: the body is shown if it is true, or else the other condition holds. -/
  | truth (b : Bool)
  /-- The body is shown once. -/
  | body
  /-- The body is shown once for each entry, in it as a further scope. -/
  | turns (scopes : List Scope)
  /-- The other condition holds; `required` means that something must stand for it. -/
  | otherwise (required : Bool)
deriving Repr, Inhabited

namespace Request

/-- The failure of a helper. -/
def failure (r : Request) (reason : String) : Error := .skeleton s!"helper '{r.name}': {reason}"

/-- The argument at a place, null if it leads to nothing. -/
def argument (r : Request) (i : Nat) : Except Error Datum :=
  match r.given[i]? with
  | some d => .ok (d.getD .null)
  | none => .error (r.failure "too few arguments")

/-- The datum of the argument at a place, which must lead to something. -/
def datum (r : Request) (i : Nat) : Except Error Datum :=
  match r.given[i]?.join with
  | some d => .ok d
  | none => .error (r.failure "too few arguments")

/-- An argument by name, the last one of the name. -/
def named? (r : Request) (name : String) : Option Datum :=
  (Entries.get? r.named.reverse name).map (·.getD .null)

/-! ### Helpers that make a datum or a truth value -/

/-- The number of items, of fields or of bytes of the argument. -/
def size (r : Request) : Except Error Outcome := (r.datum 0).map fun d => .datum (.number (.whole d.size))

/-- Whether the argument does not count as true. -/
def negation (r : Request) : Except Error Outcome := (r.datum 0).map fun d => .truth (!d.holds false)

/-- A truth value of two arguments. -/
def binary (r : Request) (f : Datum → Datum → Bool) : Except Error Outcome := do
  let a ← r.datum 0
  let b ← r.datum 1
  return .truth (f a b)

/-- A helper that compares two arguments. -/
def comparison (r : Request) (accepts : Ordering → Bool) : Except Error Outcome :=
  r.binary fun a b => (a.compare? b).any accepts

/-- Whether an argument counts as true. -/
def counts (d : Option Datum) : Bool := (d.getD .null).holds false

/-- The item of a list at a place, or the field of a record of a name. -/
def entry? (d key : Datum) : Option Datum :=
  match d, key with
  | .list items, .number (.whole n) => if 0 ≤ n then items[n.toNat]? else none
  | .record fields, .text s => Entries.get? fields s
  | _, _ => none

/-- Looks an item or a field up, which must be there. -/
def lookup (r : Request) : Except Error Outcome := do
  let d ← r.argument 0
  let key ← r.argument 1
  match entry? d key with
  | some e => return .datum e
  | none => .error (r.failure "nothing is there")

/-! ### Helpers of blocks -/

/-- A scope around an argument, in which names are bound. -/
def scopeOf (r : Request) (d : Datum) (key : Option Datum) : Scope :=
  { Scope.ofDatum d with
    bound := match r.binders, key with
      | .one item, _ => [(item, d)]
      | .two item name, some key => [(item, d), (name, key)]
      | _, _ => [] }

/-- Shows the body if the argument counts as true, or if it does not. -/
def condition (r : Request) (positive : Bool) : Except Error Outcome := do
  let d ← r.argument 0
  let includeZero := match r.named? "includeZero" with
    | some (.bool b) => b
    | _ => false
  return if d.holds includeZero == positive then .body else .otherwise false

/-- Shows the body in the scope of the argument, if that counts as true. -/
def within (r : Request) : Except Error Outcome := do
  let d ← r.argument 0
  return if d.holds false then .turns [r.scopeOf d none] else .otherwise true

/-- The scope of a turn. -/
def turn (r : Request) (count i : Nat) (key : Option String) (d : Datum) : Scope :=
  let place : Datum := .number (.whole i)
  let common := [("first", .bool (i == 0)), ("last", .bool (i + 1 == count)), ("index", place)]
  { r.scopeOf d (some ((key.map .text).getD place)) with
    loopVariables := common ++ (key.map fun k => ("key", .text k)).toList }

/-- Shows the body once for each item or field, in its scope. -/
def each (r : Request) : Except Error Outcome := do
  let turns? : Option (List (Option String × Datum)) := match ← r.argument 0 with
    | .list items => some (items.map fun d => (none, d))
    | .record fields => some (fields.map fun (k, d) => (some k, d))
    | _ => none
  if !r.hasBody then return .turns []
  match turns? with
  | some turns =>
    if turns.isEmpty && r.hasOtherwise then return .otherwise false
    return .turns (turns.mapIdx fun i (k, d) => r.turn turns.length i k d)
  | none => return .otherwise true

/-- The levels of messages. -/
def levels : List String := ["error", "warn", "info", "debug", "trace"]

/-- Shows nothing; a level that is given as a text must be one. -/
def message (r : Request) : Except Error Outcome :=
  match r.named? "level" with
  | some (.text s) =>
    if levels.contains s.toLower then .ok (.turns []) else .error (r.failure "no such level")
  | _ => .ok (.turns [])

/-! ### All helpers -/

/-- The result of the helper of a name, if there is one. -/
def run? (r : Request) : Option (Except Error Outcome) :=
  match r.name with
  | "if" => some (r.condition true)
  | "unless" => some (r.condition false)
  | "each" => some r.each
  | "with" => some r.within
  | "raw" => some (.ok .body)
  | "log" => some r.message
  | "lookup" => some r.lookup
  | "eq" => some (r.binary Datum.same)
  | "ne" => some (r.binary fun a b => !a.same b)
  | "gt" => some (r.comparison (· == .gt))
  | "gte" => some (r.comparison (· != .lt))
  | "lt" => some (r.comparison (· == .lt))
  | "lte" => some (r.comparison (· != .gt))
  | "and" => some (.ok (.truth (r.given.all counts)))
  | "or" => some (.ok (.truth (r.given.any counts)))
  | "not" => some r.negation
  | "len" => some r.size
  | _ => none

/-- The result of a helper, which must exist. -/
def run (r : Request) : Except Error Outcome :=
  r.run?.getD (.error (r.failure "not known"))

/-- Calls a helper with nothing. -/
def bare (name : String) : Request := ⟨name, [], [], .none, false, false⟩

end Request

/-- Whether a name is that of a helper. -/
def isHelper (name : String) : Bool := (Request.bare name).run?.isSome

end Bindery.Stencil
