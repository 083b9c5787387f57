import Bindery.Block
import Bindery.Session

/-! # Targets

A target renders functions, one at a time. Rendering may use and change the session and a state of the
target's own; what it has changed stays also after a failure. A failure that concerns one function alone is
recorded, and a comment takes the place of the function. From this, a target makes the block of all functions
and says what stands before and after it.

A target whose composition is `single` writes its inputs around the block of all functions. One that works
by `blocks` copies its inputs and fills the blocks that they name. -/

namespace Bindery

/-- A run of a target with states `σ`: the session, and the target's own state. -/
structure Run (σ : Type) where
  session : Session
  state : σ

/-- A computation of a run. -/
abbrev Gen (σ : Type) := ExceptT Error (StateM (Run σ))

namespace Gen

variable {σ α : Type}

/-- The session. -/
def session : Gen σ Session := return (← get).session

/-- The catalog. -/
def catalog : Gen σ Catalog := return (← session).catalog

/-- Records that a function could not be generated. -/
def record (function : String) (e : Error) : Gen σ Unit :=
  modify fun r => { r with session := r.session.record function e }

/-- The functions to generate. -/
def generatable : Gen σ (List String) :=
  modifyGet fun r =>
    let (session, names) := r.session.generatable
    (names, { r with session := session })

/-- The target's own state. -/
def state : Gen σ σ := return (← get).state

/-- Changes the target's own state. -/
def modifyState (f : σ → σ) : Gen σ Unit := modify fun r => { r with state := f r.state }

/-- The value of a computation that needs no run. -/
def ofExcept (v : Except Error α) : Gen σ α := MonadExcept.ofExcept v

end Gen

/-- An input of a run. -/
structure Input where
  /-- The name of the file it was read from. -/
  name : String
  text : String
deriving Repr, DecidableEq, Inhabited

/-- The inputs of a run. -/
structure Inputs where
  /-- They stand before the functions. -/
  preamble : List Input
  /-- They stand after the functions. -/
  epilogue : List Input
deriving Repr, DecidableEq, Inhabited

/-- All inputs in order. -/
def Inputs.all (inputs : Inputs) : List Input := inputs.preamble ++ inputs.epilogue

/-- The texts of inputs, one after the other. -/
def verbatim (inputs : List Input) : String := String.join (inputs.map Input.text)

/-- What renders single functions. -/
structure Renderer (σ : Type) where
  /-- The name by which the target is chosen and by which functions ask to be left out. -/
  name : String
  /-- A comment in the target's language. -/
  comment : String → String
  /-- The text of a function. -/
  render : String → Gen σ String

namespace Renderer

variable {σ : Type}

/-- The text of a function. A failure that concerns the function alone is recorded, and a comment takes its
place. -/
def guarded (r : Renderer σ) (function : String) : Gen σ String :=
  tryCatch (r.render function) fun e =>
    if e.isPerFunction then do
      Gen.record function e
      return r.comment e.message
    else throw e

/-- The texts of functions, one after the other. -/
def renderEach (r : Renderer σ) : List String → Gen σ String
  | [] => pure ""
  | name :: rest => do
    let text ← r.guarded name
    return text ++ (← r.renderEach rest)

/-- The texts of all functions to generate. -/
def renderAll (r : Renderer σ) : Gen σ String := do r.renderEach (← Gen.generatable)

end Renderer

/-- How a target puts its output together. -/
inductive Composition where
  /-- The inputs stand around the block of all functions. -/
  | single
  /-- The inputs are copied, and the blocks they name are filled. -/
  | blocks
deriving Repr, DecidableEq, Inhabited

/-- A target. -/
structure Target (σ : Type) extends Renderer σ where
  composition : Composition := .single
  /-- What stands before the functions. -/
  preamble : List Input → Gen σ String := fun inputs => pure (verbatim inputs)
  /-- The block of all functions. -/
  functions : Gen σ String := toRenderer.renderAll
  /-- What stands after the functions. -/
  epilogue : List Input → Gen σ String := fun inputs => pure (verbatim inputs)
  /-- The text of a block. -/
  block : BlockName → Gen σ String := fun b =>
    if b = .functions then functions else throw (.unhandledBlock b.text)

namespace Target

variable {σ : Type}

/-- Fills the blocks that lines name. -/
def fillLines (t : Target σ) (m : Marker) (cache : BlockCache) : List String → Gen σ String
  | [] => pure ""
  | line :: rest =>
    match m.block? line with
    | none => do return line ++ (← t.fillLines m cache rest)
    | some b => do
      let (text, cache) ← cache.getOrRender b (t.block b)
      return text ++ (← t.fillLines m cache rest)

/-- The output of a target that writes its inputs around the block of all functions. -/
def composeSingle (t : Target σ) (inputs : Inputs) : Gen σ String := do
  let head ← t.preamble inputs.preamble
  let body ← t.functions
  let tail ← t.epilogue inputs.epilogue
  return head ++ body ++ tail

/-- The output of a target that fills the blocks its inputs name. -/
def composeBlocks (t : Target σ) (inputs : Inputs) : Gen σ String := do
  let m ← Gen.ofExcept (Marker.ofSigil (← Gen.session).config.sigil)
  t.fillLines m .empty (inputs.all.flatMap fun input => Text.lines input.text)

/-- The output of a target. -/
def generate (t : Target σ) (inputs : Inputs) : Gen σ String :=
  match t.composition with
  | .single => t.composeSingle inputs
  | .blocks => t.composeBlocks inputs

end Target

/-- A target with the state in which it begins. -/
structure Generator where
  State : Type
  start : State
  target : Target State

namespace Generator

/-- The generator of a target without a state of its own. -/
def stateless (target : Target Unit) : Generator := ⟨Unit, (), target⟩

/-- Generates the output for a session; the session is returned as it is then, also after a failure. -/
def generate (g : Generator) (session : Session) (inputs : Inputs) : Except Error String × Session :=
  let (result, run) := (g.target.generate inputs).run.run ⟨session, g.start⟩
  (result, run.session)

end Generator
end Bindery
