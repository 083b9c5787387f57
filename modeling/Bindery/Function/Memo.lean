import Bindery.Function.Basic

/-! # Functions that remember what was derived

A `Memo` answers the same questions as a function, but derives parameters and their order only once between
updates. An update forgets what it may have changed: the parameters with a list they come from, and the
order with these and with its own list. Failures are not remembered. -/

namespace Bindery.Function
open Attr (Value Tree)

/-- A function with the views of it that have been derived. -/
structure Memo where
  function : Function
  params? : Option ParamTable
  order? : Option (List String)
deriving DecidableEq, Inhabited

namespace Memo

/-- A function of which no view has been derived. -/
def fresh (f : Function) : Memo := ⟨f, none, none⟩

/-- Forgets the views. -/
def forget (m : Memo) : Memo := fresh m.function

/-- Forgets the views that a key concerns. -/
def forgetFor (m : Memo) (key : String) : Memo :=
  if key ∈ paramKeys then m.forget else if key = orderKey then { m with order? := none } else m

/-- Takes in entries up to the first failure. -/
def takeEntries (m : Memo) : List (String × Value) → Memo × Except Error Unit
  | [] => (m, .ok ())
  | (key, v) :: rest =>
    match m.function.takeEntry key v with
    | .ok f => takeEntries { m.forgetFor key with function := f } rest
    | .error e => (m, .error e)

/-- Updates the function from another source. -/
def update (m : Memo) (attrs : Tree) : Memo × Except Error Unit :=
  match m.takeEntries attrs with
  | (m, .ok ()) =>
    let f := m.function
    ({ m with function := { f with attrs := Attr.merge f.attrs (mergedEntries attrs) } }, .ok ())
  | (m, .error e) => (m, .error e)

/-- Says whether unknown dependencies are failures. -/
def setStrict (m : Memo) (strict : Bool) : Memo := fresh { m.function with strict := strict }

/-- The parameters. -/
def params (m : Memo) : Memo × Except Error ParamTable :=
  match m.params? with
  | some table => (m, .ok table)
  | none =>
    match m.function.params with
    | .ok table => ({ m with params? := some table }, .ok table)
    | .error e => (m, .error e)

/-- The names of the parameters in signature order. -/
def order (m : Memo) : Memo × Except Error (List String) :=
  match m.order? with
  | some names => (m, .ok names)
  | none =>
    match m.params with
    | (m, .error e) => (m, .error e)
    | (m, .ok table) =>
      match m.function.orderOf table with
      | .ok names => ({ m with order? := some names }, .ok names)
      | .error e => (m, .error e)

/-- The parameters in signature order. -/
def orderedParams (m : Memo) : Memo × Except Error (List Param) :=
  match m.params with
  | (m, .error e) => (m, .error e)
  | (m, .ok table) =>
    match m.order with
    | (m, .ok names) => (m, .ok (names.filterMap (Entries.get? table)))
    | (m, .error e) => (m, .error e)

end Memo
end Bindery.Function
