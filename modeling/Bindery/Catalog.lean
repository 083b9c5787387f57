import Bindery.Config
import Bindery.Function.Basic
import Bindery.TypeInfo

/-! # Catalogs

A catalog holds all functions and all types that the sources of a run describe, in order of first mention.
A thing that is mentioned again is updated. What a failing source has said before its failing entry is
kept, as is what the entry itself has said before its failing attribute. -/

namespace Bindery
open Attr (Value Tree)

/-- All functions and types that are known. -/
structure Catalog where
  functions : Entries Function
  types : Entries TypeInfo
  /-- Whether the functions are strict about their dependencies. -/
  strict : Bool
deriving DecidableEq, Inhabited

namespace Catalog

/-- A catalog that knows nothing. -/
def empty (strict : Bool) : Catalog := ⟨[], [], strict⟩

/-- A catalog that knows nothing, with the strictness of a configuration. -/
def ofConfig (config : Config) : Catalog := empty config.strict

/-- The function of a name. -/
def function? (c : Catalog) (name : String) : Option Function := Entries.get? c.functions name

/-- The type of a name. -/
def type? (c : Catalog) (name : String) : Option TypeInfo := Entries.get? c.types name

/-! ### Loading -/

/-- The failure of an entry that does not describe anything. -/
def shapeless (name : String) (v : Value) : Error :=
  .invalidDescriptor name s!"expected a mapping of attributes, found {v.kind}"

/-- Takes in what an entry says of a function. -/
def addFunction (c : Catalog) (name : String) (v : Value) : Catalog × Except Error Unit :=
  match v.map? with
  | none => (c, .error (shapeless name v))
  | some attrs =>
    let (f, result) := ((c.function? name).getD (.new name c.strict)).update attrs
    ({ c with functions := Entries.set c.functions name f }, result)

/-- Takes in what an entry says of a type. -/
def addType (c : Catalog) (name : String) (v : Value) : Catalog × Except Error Unit :=
  match v.map? with
  | none => (c, .error (shapeless name v))
  | some attrs =>
    let t := (c.type? name).getD (.new name)
    match t.update attrs with
    | .ok t => ({ c with types := Entries.set c.types name t }, .ok ())
    | .error e => ({ c with types := Entries.set c.types name t }, .error e)

/-- Takes in entries up to the first failure. -/
def load (add : Catalog → String → Value → Catalog × Except Error Unit) (c : Catalog) :
    List (String × Value) → Catalog × Except Error Unit
  | [] => (c, .ok ())
  | (name, v) :: rest =>
    match add c name v with
    | (c, .ok ()) => load add c rest
    | (c, .error e) => (c, .error e)

/-- Takes in what a source says of functions. -/
def loadFunctions (c : Catalog) (source : Tree) : Catalog × Except Error Unit := load addFunction c source

/-- Takes in what a source says of types. -/
def loadTypes (c : Catalog) (source : Tree) : Catalog × Except Error Unit := load addType c source

/-! ### Checking -/

/-- The type of a name among types; `function` is what uses it. -/
def resolveType (types : Entries TypeInfo) (function typeName : String) : Except Error TypeInfo :=
  match Entries.get? types typeName with
  | some t => .ok t
  | none => .error (.unknownType function typeName)

/-- The failure to find a function. -/
def unknownFunction (name : String) : Error := .invalidArgument s!"unknown function '{name}'"

/-- The function of a name, which must be known. -/
def requireFunction (c : Catalog) (name : String) : Except Error Function :=
  match c.function? name with
  | some f => .ok f
  | none => .error (unknownFunction name)

/-- Derives the parameters of all functions and their order; fails as the first of them does. -/
def validate (c : Catalog) : Except Error Unit := (Entries.values c.functions).forM fun f => f.order.map fun _ => ()

end Catalog
end Bindery
