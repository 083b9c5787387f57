import Bindery.Catalog
import Bindery.Template.Substitution

/-! # Signatures

A signature is a function whose parameters and result all have known types. It lists the parameters
twice: as they are declared, which is the order of the call, and in signature order, which is the order
in which a generated signature takes them and in which several results are listed. -/

namespace Bindery

/-- A parameter together with its type. -/
structure TypedParam where
  param : Param
  type : TypeInfo
deriving DecidableEq, Inhabited

namespace TypedParam

/-- Its name. -/
def name (p : TypedParam) : String := p.param.name

/-- Whether the call reads it. -/
def reads (p : TypedParam) : Bool := p.param.reads

/-- Whether the call writes it. -/
def writes (p : TypedParam) : Bool := p.param.writes

/-- Whether the call only writes it. -/
def onlyWritten (p : TypedParam) : Bool := p.param.mode = .output

/-- The template of a facet for its direction. -/
def template? (p : TypedParam) (facet : Facet) : Option String := p.type.template? facet p.param.mode

/-- The C type for its direction. -/
def cType? (p : TypedParam) : Option String := p.type.cType? p.param.mode

/-- Its declaration in C as a variable of another name. -/
def declareC (p : TypedParam) (name : String) : String := p.type.declareC name p.param.mode

/-- A parameter with its type among types; `function` is what it belongs to. -/
def resolve (types : Entries TypeInfo) (function : String) (p : Param) : Except Error TypedParam :=
  (Catalog.resolveType types function p.type).map fun t => ⟨p, t⟩

end TypedParam

/-- How a function hands back its result. -/
inductive ResultShape where
  /-- The returned value is the result. -/
  | returned
  /-- One parameter is the result. -/
  | single (p : TypedParam)
  /-- Several parameters form the result, each under its display name. -/
  | aggregate (ps : List TypedParam)
deriving DecidableEq, Inhabited

namespace ResultShape

/-- The shape of the result of a function that writes these parameters. -/
def ofOutputs : List TypedParam → ResultShape
  | [] => returned
  | [p] => single p
  | ps => aggregate ps

/-- The parameters that form the result. -/
def outputs : ResultShape → List TypedParam
  | returned => []
  | single p => [p]
  | aggregate ps => ps

/-- The names under which several parameters form the result. -/
def keys : ResultShape → List String
  | aggregate ps => ps.map fun p => p.param.displayName
  | _ => []

/-- The one parameter that is the result, for a target that has no aggregates. -/
def one? (function : String) : ResultShape → Except Error (Option TypedParam)
  | returned => .ok none
  | single p => .ok (some p)
  | aggregate ps => .error (.unsupportedOutputs function ps.length)

end ResultShape

/-- A function whose types are all known. -/
structure Signature where
  function : Function
  /-- The parameters in the order of their declaration. -/
  params : List TypedParam
  /-- The parameters in signature order. -/
  ordered : List TypedParam
  returnType : TypeInfo
deriving DecidableEq, Inhabited

namespace Signature

/-- The signature of a function with types among the given ones. -/
def ofFunction (types : Entries TypeInfo) (f : Function) : Except Error Signature := do
  let table ← f.params
  let params ← (Entries.values table).mapM (TypedParam.resolve types f.name)
  let returnType ← Catalog.resolveType types f.name f.returnType
  let order ← f.order
  let ordered := order.filterMap fun name => params.find? fun p => p.name == name
  return ⟨f, params, ordered, returnType⟩

/-- The signature of a function of a catalog. -/
def resolve (c : Catalog) (name : String) : Except Error Signature := do
  ofFunction c.types (← c.requireFunction name)

/-- The name of the function. -/
def name (s : Signature) : String := s.function.name

/-- The parameters that the call reads, in the order of their declaration. -/
def inputs (s : Signature) : List TypedParam := s.params.filter TypedParam.reads

/-- The parameters that the call reads, in signature order. -/
def orderedInputs (s : Signature) : List TypedParam := s.ordered.filter TypedParam.reads

/-- The parameters that the call writes, in signature order. -/
def orderedOutputs (s : Signature) : List TypedParam := s.ordered.filter TypedParam.writes

/-- How the function hands back its result. -/
def shape (s : Signature) : ResultShape := .ofOutputs s.orderedOutputs

/-- The template of a facet for what the function returns. -/
def returnTemplate? (s : Signature) (facet : Facet) : Option String := s.returnType.template? facet .output

/-- The C type of what the function returns. -/
def returnCType? (s : Signature) : Option String := s.returnType.cType? .output

/-! ### Filling the templates of parameters -/

/-- The values of the placeholders of a parameter. -/
def substitution (s : Signature) (naming : Template.Naming) (p : TypedParam) : Template.Substitution :=
  .ofParam s.name p.param (some p.type) naming

/-- Fills a template for a parameter. -/
def fill (s : Signature) (naming : Template.Naming) (p : TypedParam) (template : String) :
    Except Error String :=
  (s.substitution naming p).fill template

/-- The facet of a parameter, if its type has it for the direction; an empty text opts out. -/
def facet? (s : Signature) (facet : Facet) (naming : Template.Naming) (p : TypedParam) :
    Except Error (Option String) :=
  match p.template? facet with
  | none => .ok none
  | some template => (s.fill naming p template).map some

/-- The facet of every parameter that has it and does not opt out. -/
def facets (s : Signature) (facet : Facet) (naming : Template.Naming) (ps : List TypedParam) :
    Except Error (List String) := do
  return ((← ps.mapM (s.facet? facet naming)).filterMap id).filter (· ≠ "")

/-- Fills for every parameter its template, leaving out the empty templates. -/
def fillAll (s : Signature) (naming : Template.Naming) (template : TypedParam → String)
    (ps : List TypedParam) : Except Error (List String) :=
  (ps.filter (template · ≠ "")).mapM fun p => s.fill naming p (template p)

end Signature
end Bindery
