import Bindery.Attr.Value
import Bindery.Param

/-! # The lists among a function's attributes

`PARAMS` declares parameters, `DEPS` what they depend on (`a ON b c`), `PARAM_NAMES` what they are called
among several results (`a = x`, or a mapping) and `PARAM_ORDER` the order in which a signature takes them.
All are lists of items; what goes wrong is reported of the function. -/

namespace Bindery.Function
open Attr (Value)

/-- The parameters of a function by name, in the order of their declaration. -/
abbrev ParamTable := Entries Param

/-- The items of a value that is read as a list. -/
def listItems (owner key : String) (value : Value) : Except Error (List String) :=
  match value.items? with
  | some items => .ok items
  | none => .error (.invalidDescriptor owner s!"{key} must be a string or a list, found a {value.kind}")

/-- Whether a text is one of those that mean yes. -/
def isYes (s : String) : Bool := ["true", "yes", "y"].contains s

/-! ### Declared parameters -/

/-- Adds the parameters that items declare; a name must not be declared twice. -/
def declare (function : String) (table : ParamTable) : List String → Except Error ParamTable
  | [] => .ok table
  | item :: items =>
    match Param.parse function item with
    | .error e => .error e
    | .ok p =>
      if Entries.has table p.name then
        .error (.invalidParameter function item s!"parameter '{p.name}' is declared twice")
      else declare function (Entries.set table p.name p) items

/-- The parameters that a `PARAMS` attribute declares. -/
def declaredParams (function : String) (value : Value) : Except Error ParamTable :=
  match listItems function "PARAMS" value with
  | .error e => .error e
  | .ok items => declare function [] items

/-! ### Dependencies -/

/-- A declaration that a parameter depends on others. -/
structure Dependency where
  parameter : String
  on : List String
deriving Repr, DecidableEq, Inhabited

/-- The dependency that an item declares. -/
def Dependency.parse (function item : String) : Except Error Dependency :=
  match Text.words item with
  | parameter :: "ON" :: d :: ds => .ok ⟨parameter, d :: ds⟩
  | _ => .error (.invalidDescriptor function s!"malformed DEPS entry '{item}', expected '<param> ON <deps>'")

/-- The dependencies that a `DEPS` attribute declares. -/
def dependencies (function : String) (value : Value) : Except Error (List Dependency) :=
  match listItems function "DEPS" value with
  | .error e => .error e
  | .ok items => items.mapM (Dependency.parse function)

/-! ### Display names -/

/-- The failure of an entry that gives no display name. -/
def malformedName (function item : String) : Error :=
  .invalidDescriptor function s!"malformed PARAM_NAMES entry '{item}', expected '<param> = <name>'"

/-- The parameter and the display name that an item gives. -/
def parseName (function item : String) : Except Error (String × String) :=
  match Text.cut? '=' item with
  | some (param, display) =>
    if Text.trim param = "" ∨ Text.trim display = "" then .error (malformedName function item)
    else .ok (Text.trim param, Text.trim display)
  | none => .error (malformedName function item)

/-- The parameter and the display name that an entry of a mapping gives. -/
def entryName (function : String) (entry : String × Value) : Except Error (String × String) :=
  match entry.2.text?.map Text.trim with
  | some "" | none => .error (malformedName function entry.1)
  | some display => .ok (Text.trim entry.1, display)

/-- The display names that a `PARAM_NAMES` attribute gives, each with its parameter. -/
def displayNames (function : String) (value : Value) : Except Error (List (String × String)) :=
  match value with
  | .map entries => entries.mapM (entryName function)
  | value =>
    match listItems function "PARAM_NAMES" value with
    | .error e => .error e
    | .ok items => items.mapM (parseName function)

/-! ### Signature order -/

/-- The entry that stands for all parameters which are not listed. -/
def ellipsis : String := "..."

/-- Checks the entries of an order, of which `seen` came before: each is a parameter or the ellipsis, and
none is repeated. -/
def checkOrder (function : String) (declared seen : List String) : List String → Except Error Unit
  | [] => .ok ()
  | entry :: rest =>
    if entry ≠ ellipsis ∧ entry ∉ declared then .error (.unknownOrderEntry function entry)
    else if entry ∈ seen then .error (.duplicateOrderEntry function entry)
    else checkOrder function declared (entry :: seen) rest

/-- The declared names in the order that entries list: those not listed go where the ellipsis is, or to the
end if there is none. -/
def arrange (declared entries : List String) : List String :=
  let rest := declared.filter (· ∉ entries)
  if ellipsis ∈ entries then entries.flatMap fun e => if e = ellipsis then rest else [e]
  else entries ++ rest

/-- The order of the declared names that a `PARAM_ORDER` attribute sets. -/
def signatureOrder (function : String) (value : Value) (declared : List String) :
    Except Error (List String) :=
  match listItems function "PARAM_ORDER" value with
  | .error e => .error e
  | .ok entries =>
    match checkOrder function declared [] entries with
    | .error e => .error e
    | .ok () => .ok (arrange declared entries)

end Bindery.Function
