import Bindery.Function.Lists
import Bindery.NameSet
import Bindery.Text.LetterCase

/-! # Functions

A function is described by the attributes that all sources give it. A few keys control the description and
are not kept as attributes (`RETURN`, `IGNORE`, `FLAGS`, `INTERNAL`); the four lists replace the value they
had; every other attribute is merged. Parameters and their order are derived from the attributes, by
`params`, `order` and `orderedParams`. -/

namespace Bindery
open Attr (Value Tree)

/-- What is known of a function. -/
structure Function where
  name : String
  attrs : Tree
  /-- The name of the abstract type it returns. -/
  returnType : String
  /-- Its flags, in lower case. -/
  flags : NameSet
  /-- The targets that leave it out. -/
  ignoredBy : NameSet
  /-- Whether a dependency on something that is no parameter is a failure. -/
  strict : Bool
deriving DecidableEq, Inhabited

namespace Function

/-- The return type of a function that declares none. -/
def defaultReturnType : String := "ERROR"

/-- The flag of functions that public interfaces leave out. -/
def internalFlag : String := "internal"

/-- A function of which nothing is known yet. -/
def new (name : String) (strict : Bool) : Function := ⟨name, [], defaultReturnType, .empty, .empty, strict⟩

/-- The value of an attribute. -/
def attr? (f : Function) (key : String) : Option Value := Entries.get? f.attrs key

/-- The value of an attribute that is a text. -/
def text? (f : Function) (key : String) : Option String := (f.attr? key).bind Value.text?

/-- Whether it has a flag, in any case. -/
def hasFlag (f : Function) (flag : String) : Bool := Text.lower flag ∈ f.flags

/-- Whether public interfaces leave it out. -/
def isInternal (f : Function) : Bool := f.hasFlag internalFlag

/-- Whether a target leaves it out. -/
def isIgnoredBy (f : Function) (target : String) : Bool := target ∈ f.ignoredBy

/-! ### Updating -/

/-- What a key says about an update: it replaces a list, it controls the description, or it is merged. -/
inductive KeyRole where
  | list
  | ignore
  | flags
  | internal
  | returns
  | merged
deriving Repr, DecidableEq

/-- The keys of the lists from which parameters are derived. -/
def paramKeys : List String := ["PARAMS", "DEPS", "PARAM_NAMES"]

/-- The key of the list from which the order is derived. -/
def orderKey : String := "PARAM_ORDER"

/-- The role of a key. -/
def KeyRole.ofKey (key : String) : KeyRole :=
  if key ∈ paramKeys ∨ key = orderKey then list
  else if key = "IGNORE" then ignore
  else if key = "FLAGS" then flags
  else if key = "INTERNAL" then internal
  else if key = "RETURN" then returns
  else merged

/-- Sets the return type. A blank text and a key without a value leave it as it was. -/
def setReturnType (f : Function) : Value → Except Error Function
  | .text s => .ok (if Text.trim s = "" then f else { f with returnType := Text.trim s })
  | .map [] => .ok f
  | v => .error (.invalidDescriptor f.name s!"RETURN must be a type name, found a {v.kind}")

/-- Sets or clears the internal flag. -/
def setInternal (f : Function) (v : Value) : Except Error Function :=
  match v.text? with
  | none => .error (.invalidDescriptor f.name s!"INTERNAL must be a boolean, found a {v.kind}")
  | some s =>
    .ok <| if isYes (Text.asciiLower (Text.trim s)) then { f with flags := f.flags.insert internalFlag }
      else { f with flags := f.flags.erase internalFlag }

/-- Takes in an entry; one that is merged waits until all are taken in and changes nothing here. -/
def takeEntry (f : Function) (key : String) (v : Value) : Except Error Function :=
  match KeyRole.ofKey key with
  | .list => .ok { f with attrs := Entries.set f.attrs key v }
  | .ignore => (listItems f.name key v).map fun items =>
      { f with ignoredBy := f.ignoredBy.insertAll items }
  | .flags => (listItems f.name key v).map fun items =>
      { f with flags := f.flags.insertAll (items.map Text.lower) }
  | .internal => f.setInternal v
  | .returns => f.setReturnType v
  | .merged => .ok f

/-- Takes in entries up to the first failure, and returns what the function is then. -/
def takeEntries (f : Function) : List (String × Value) → Function × Except Error Unit
  | [] => (f, .ok ())
  | (key, v) :: rest =>
    match f.takeEntry key v with
    | .ok f => f.takeEntries rest
    | .error e => (f, .error e)

/-- The entries that are merged. -/
def mergedEntries (attrs : Tree) : Tree := attrs.filter fun e => KeyRole.ofKey e.1 = .merged

/-- Updates the description from another source. After a failure nothing is merged, but the entries before
the failing one have been taken in. -/
def update (f : Function) (attrs : Tree) : Function × Except Error Unit :=
  match f.takeEntries attrs with
  | (f, .ok ()) => ({ f with attrs := Attr.merge f.attrs (mergedEntries attrs) }, .ok ())
  | (f, .error e) => (f, .error e)

/-! ### Derived views -/

/-- The names among dependencies that are parameters; in a strict function all must be. -/
def resolveDependencies (f : Function) (table : ParamTable) (parameter : String) :
    List String → Except Error (List String)
  | [] => .ok []
  | d :: ds =>
    if Entries.has table d then (f.resolveDependencies table parameter ds).map (d :: ·)
    else if f.strict then .error (.unresolvedDependency f.name parameter d)
    else f.resolveDependencies table parameter ds

/-- Adds a dependency to its parameter. -/
def attach (f : Function) (table : ParamTable) (d : Dependency) : Except Error ParamTable :=
  if Entries.has table d.parameter then
    (f.resolveDependencies table d.parameter d.on).map fun on =>
      Entries.modify table d.parameter fun p => { p with dependencies := p.dependencies ++ on }
  else if f.strict then .error (.unknownParameter f.name "DEPS" d.parameter)
  else .ok table

/-- Gives a parameter its display name. -/
def nameOutput (f : Function) (table : ParamTable) (e : String × String) : Except Error ParamTable :=
  if Entries.has table e.1 then
    .ok (Entries.modify table e.1 fun p => { p with outputName := some e.2 })
  else .error (.unknownParameter f.name "PARAM_NAMES" e.1)

/-- The parameters that are declared, without dependencies and display names. -/
def declaredTable (f : Function) : Except Error ParamTable :=
  match f.attr? "PARAMS" with
  | some v => declaredParams f.name v
  | none => .ok []

/-- The dependencies that are declared. -/
def declaredDependencies (f : Function) : Except Error (List Dependency) :=
  match f.attr? "DEPS" with
  | some v => dependencies f.name v
  | none => .ok []

/-- The display names that are declared. -/
def declaredNames (f : Function) : Except Error (List (String × String)) :=
  match f.attr? "PARAM_NAMES" with
  | some v => displayNames f.name v
  | none => .ok []

/-- The parameters, with dependencies and display names, in the order of their declaration. -/
def params (f : Function) : Except Error ParamTable := do
  let table ← f.declaredTable
  let table ← (← f.declaredDependencies).foldlM f.attach table
  (← f.declaredNames).foldlM f.nameOutput table

/-- The names of the given parameters in signature order. -/
def orderOf (f : Function) (table : ParamTable) : Except Error (List String) :=
  match f.attr? orderKey with
  | some v => signatureOrder f.name v (Entries.names table)
  | none => .ok (Entries.names table)

/-- The names of the parameters in signature order. -/
def order (f : Function) : Except Error (List String) := do f.orderOf (← f.params)

/-- The parameters in signature order. -/
def orderedParams (f : Function) : Except Error (List Param) := do
  let table ← f.params
  return (← f.order).filterMap (Entries.get? table)

end Function
end Bindery
