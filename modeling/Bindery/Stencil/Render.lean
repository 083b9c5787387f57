import Bindery.Stencil.Helper
import Bindery.Stencil.Output

/-! # Showing a stencil

A stencil is shown element by element. A datum that a tag names must be there, and so must the helpers, rules
and other stencils. The only rule, `inline`, defines its body as a stencil in the scope around it. An included
stencil is shown in a scope of its own, on top of the scopes around the tag. The body of the tag is shown
first, in the same scope, and is fixed from then on: the stencil can include it, and it takes the place of a
stencil that does not exist. -/

namespace Bindery.Stencil

/-- A failure to show something. -/
def failure (reason : String) : Error := .skeleton reason

/-! ### Arguments -/

/-- The datum of a helper in parentheses: what is shown of a block without a body is an empty text. -/
def Outcome.asDatum : Outcome → Except Error Datum
  | .datum d => .ok d
  | .truth b => .ok (.bool b)
  | .body | .turns _ | .otherwise false => .ok (.text "")
  | .otherwise true => .error (failure "nothing is shown")

mutual
/-- What an argument leads to, if it leads to anything. -/
def Argument.find (s : Scopes) : Argument → Except Error (Option Datum)
  | .datum d => .ok (some d)
  | .reference r => s.resolve r
  | .call c => (c.datum s).map some
/-- The datum that a helper makes. -/
def Call.datum (s : Scopes) : Call → Except Error Datum
  | .mk name given named => do
    let given ← findAll s given
    let named ← findNamed s named
    (← (Request.mk name given named .none false false).run).asDatum
/-- What arguments lead to. -/
def findAll (s : Scopes) : List Argument → Except Error (List (Option Datum))
  | [] => .ok []
  | a :: as => do return (← a.find s) :: (← findAll s as)
/-- What named arguments lead to. -/
def findNamed (s : Scopes) : List (String × Argument) → Except Error (List (String × Option Datum))
  | [] => .ok []
  | (n, a) :: as => do return (n, ← a.find s) :: (← findNamed s as)
end

/-- The request that a call makes. -/
def Call.request (c : Call) (s : Scopes) (binders : Binders) (hasBody hasOtherwise : Bool) :
    Except Error Request := do
  return ⟨c.name, ← findAll s c.given, ← findNamed s c.named, binders, hasBody, hasOtherwise⟩

/-- The name that a subject writes or results in. -/
def Subject.written (s : Scopes) : Subject → Except Error String
  | .name n => .ok n
  | .reference r => .ok r.written
  | .call c => (c.datum s).map Datum.show

/-- What a subject leads to, if it leads to anything. -/
def Subject.find (s : Scopes) : Subject → Except Error (Option Datum)
  | .name _ => .ok none
  | .reference r => s.resolve r
  | .call c => (c.datum s).map some

/-! ### Elements -/

/-- What the place of an element knows. -/
structure Setting where
  /-- The stencils that can be included wherever no scope defines one of the name. -/
  known : Entries Stencil
  /-- What stands before the lines that are shown. -/
  indent : String

/-- How far a stencil has been shown. -/
structure Progress where
  scopes : Scopes
  /-- The name of the known stencil whose elements are shown, as long as no block has been shown in it. -/
  current : Option String
  output : Output

namespace Progress

/-- Writes a text with its lines indented. -/
def writeLines (p : Progress) (x : Setting) (s : String) : Progress :=
  { p with output := p.output.writeLines x.indent s }

/-- Writes what is shown of a helper without a block. A truth value is a word, and a datum has lines. -/
def writeOutcome (p : Progress) (x : Setting) : Outcome → Except Error Progress
  | .datum d => .ok (p.writeLines x d.show)
  | .truth b => .ok { p with output := p.output.writeWord (Datum.bool b).show }
  | .body | .turns _ | .otherwise false => .ok p
  | .otherwise true => .error (failure "nothing is shown")

/-- Writes a subject: the result of the helper of its name, or else its datum. -/
def writeSubject (p : Progress) (x : Setting) (subject : Subject) : Except Error Progress := do
  let name ← subject.written p.scopes
  if isHelper name then p.writeOutcome x (← (Request.bare name).run)
  else
    match ← subject.find p.scopes with
    | some d => return p.writeLines x d.show
    | none => .error (failure s!"no datum for '{name}'")

/-- Carries out a rule. -/
def applyRule (p : Progress) (c : Call) (body : Option Stencil) : Except Error Progress := do
  let given ← findAll p.scopes c.given
  let _ ← findNamed p.scopes c.named
  if c.name ≠ "inline" then .error (failure s!"no rule '{c.name}'")
  match given.head?.join, body with
  | some (.text name), some body => return { p with scopes := p.scopes.define name body }
  | _, _ => .error (failure "a name and a body are needed")

/-- The progress within a block. -/
def inBlock (p : Progress) : Progress := { p with current := none }

end Progress

/-- The name under which an included stencil can include the body of its tag. -/
def bodyName : String := "@partial-block"

/-- The stencil of a name, with the name if it is a known one. -/
def Setting.find? (x : Setting) (s : Scopes) (name : String) : Option (Stencil × Option String) :=
  match s.stencil? name with
  | some stencil => some (stencil, none)
  | none => (Entries.get? x.known name).map fun stencil => (stencil, some name)

/-- The scope of a stencil that a tag includes. -/
def Scopes.within (s : Scopes) (given : List Argument) (named : List (String × Argument)) :
    Except Error Scopes := do
  let given ← findAll s given
  let named ← findNamed s named
  return s.push (s.included given (named.map fun (n, d) => (n, d.getD .null)))

mutual
/-- Shows elements in order, with no more than `depth` stencils included in each other. -/
def showAll (depth : Nat) (x : Setting) (p : Progress) (es : List Element) : Except Error Progress :=
  match es with
  | [] => .ok p
  | e :: es => do showAll depth x (← showOne depth x p e) es
termination_by (depth, sizeOf es)
/-- Shows an element. -/
def showOne (depth : Nat) (x : Setting) (p : Progress) (e : Element) : Except Error Progress :=
  match e with
  | .text s => .ok (p.writeLines x s)
  | .comment => .ok p
  | .subject s => p.writeSubject x s
  | .call c => do p.writeOutcome x (← (← c.request p.scopes .none false false).run)
  | .block c binders body otherwise => do
    match ← (← c.request p.scopes binders true otherwise.isSome).run with
    | .datum d => return p.writeLines x d.show
    | .body | .truth true => showAll depth x p.inBlock body
    | .turns scopes =>
      let start := { p with scopes := p.scopes.push (.ofDatum .null) }
      let last ← scopes.foldlM (fun p scope => do
        showAll depth x { p.inBlock with scopes := p.scopes.turn scope } body) start
      return { last with scopes := p.scopes }
    | .truth false => showOtherwise depth x p otherwise false
    | .otherwise required => showOtherwise depth x p otherwise required
  | .rule c body => p.applyRule c body
  | .inclusion target given named margin body => do
    let name ← target.written p.scopes
    let scopes ← p.scopes.within given named
    if p.current = some name then .error (failure s!"'{name}' includes itself")
    let found := x.find? p.scopes name
    let (scopes, stencil?) ← match body with
      | none => pure (scopes, found)
      | some body => do
        let shown ← showAll depth { x with indent := "" } ⟨scopes, none, .empty⟩ body
        let fixed := [.text shown.output.text]
        pure (shown.scopes.define bodyName fixed, found <|> some (fixed, none))
    match depth, stencil? with
    | _, none => .error (failure s!"no stencil '{name}'")
    | 0, some _ => .error (failure "too many stencils included in each other")
    | depth + 1, some (stencil, known) =>
      let x := { x with indent := x.indent ++ margin.indent }
      let last ← showAll depth x ⟨scopes, known, p.output.enter margin⟩ stencil
      return { p with output := p.output.leave last.output }
termination_by (depth, sizeOf e)
/-- Shows what stands for the other condition. -/
def showOtherwise (depth : Nat) (x : Setting) (p : Progress) (otherwise : Option (List Element))
    (required : Bool) : Except Error Progress :=
  match otherwise with
  | some es => showAll depth x p.inBlock es
  | none => if required then .error (failure "nothing is shown") else .ok p
termination_by (depth, sizeOf otherwise)
end

/-- How many stencils may be included in each other. -/
def greatestDepth : Nat := 1000

/-- Shows a stencil of a name with data. -/
def showNamed (known : Entries Stencil) (name : String) (d : Datum) : Except Error String :=
  match Entries.get? known name with
  | none => .error (failure s!"no stencil '{name}'")
  | some stencil =>
    (showAll greatestDepth ⟨known, ""⟩ ⟨.outermost d, some name, .empty⟩ stencil).map (·.output.text)

end Bindery.Stencil
