import Bindery.Stencil.Element

/-! # Scopes

A block or an included stencil may be shown in a scope of its own, with a datum in the middle, with names that
it binds, with loop variables and with stencils that are defined in it. A bound name and a defined stencil are
looked up in the scopes from the innermost outwards; the loop variables of a scope are those of the scope
around it together with its own. -/

namespace Bindery.Stencil

/-- A scope. -/
structure Scope where
  middle : Datum
  bound : List (String × Datum)
  loopVariables : List (String × Datum)
  stencils : Entries Stencil
deriving Repr, Inhabited

/-- The scope of a datum. -/
def Scope.ofDatum (d : Datum) : Scope := ⟨d, [], [], []⟩

/-- The scopes around a place, and the whole of the data. -/
structure Scopes where
  whole : Datum
  innermost : Scope
  /-- The scopes around the innermost one, outwards. -/
  outer : List Scope
deriving Repr, Inhabited

namespace Scopes

/-- The scopes at the outermost place. -/
def outermost (d : Datum) : Scopes := ⟨d, .ofDatum d, []⟩

/-- All scopes from the innermost outwards. -/
def all (s : Scopes) : List Scope := s.innermost :: s.outer

/-- The scopes within a further one, which takes over the loop variables around it. -/
def push (s : Scopes) (inner : Scope) : Scopes where
  whole := s.whole
  innermost := { inner with loopVariables := inner.loopVariables ++ s.innermost.loopVariables }
  outer := s.all

/-- The scopes around the innermost one. -/
def pop (s : Scopes) : Scopes :=
  match s.outer with
  | [] => s
  | scope :: outer => ⟨s.whole, scope, outer⟩

/-- The scopes with another one in the place of the innermost one, whose stencils stay defined. -/
def turn (s : Scopes) (next : Scope) : Scopes := s.pop.push { next with stencils := s.innermost.stencils }

/-- Defines a stencil in the innermost scope. -/
def define (s : Scopes) (name : String) (stencil : Stencil) : Scopes :=
  { s with innermost := { s.innermost with stencils := Entries.set s.innermost.stencils name stencil } }

/-- The stencil of a name, in the innermost scope that defines it. -/
def stencil? (s : Scopes) (name : String) : Option Stencil :=
  s.all.findSome? fun scope => Entries.get? scope.stencils name

/-- What a name is bound to, in the innermost scope that binds it. -/
def bound? (s : Scopes) (name : String) : Option Datum :=
  s.all.findSome? fun scope => Entries.get? scope.bound name

/-- The scope some steps outwards; the innermost one, if there are not as many. -/
def outward (s : Scopes) (n : Nat) : Scope := s.all[n]?.getD s.innermost

/-- A loop variable of the scope some steps outwards. -/
def loopVariable? (s : Scopes) (n : Nat) (name : String) : Option Datum :=
  s.all[n]?.bind fun scope => Entries.get? scope.loopVariables name

/-- What names lead to from the scope some steps outwards, if they lead to anything. A bound name goes
first. -/
def find (s : Scopes) (n : Nat) (names : List String) : Except Error (Option Datum) :=
  match names.head?.bind s.bound? with
  | some d => d.follow names.tail
  | none => (s.outward n).middle.follow names

/-- What a reference leads to, if it leads to anything. Of a loop variable only its first name counts; one
without a name is the innermost middle. -/
def resolve (s : Scopes) (r : Reference) : Except Error (Option Datum) :=
  if r.fromRoot then s.whole.follow r.names
  else if r.isLoopVariable then
    match r.names with
    | name :: _ => .ok (s.loopVariable? r.outward name)
    | [] => s.find 0 []
  else s.find r.outward r.names

/-- The scope of an included stencil. In its middle is the first argument, or else what is in the middle
already; the named arguments are set in it as fields and are bound as well. -/
def included (s : Scopes) (given : List (Option Datum)) (named : List (String × Datum)) : Scope :=
  let middle := match given with
    | [] => s.innermost.middle
    | d :: _ => d.getD .null
  if named.isEmpty then .ofDatum middle
  else { Scope.ofDatum (middle.setFields named) with bound := Entries.ofList named }

end Scopes
end Bindery.Stencil
