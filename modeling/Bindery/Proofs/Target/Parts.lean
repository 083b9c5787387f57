import Bindery.Proofs.Except
import Bindery.Proofs.Target.Runs
import Bindery.Target.Java.Class
import Bindery.Target.Java.Glue
import Bindery.Target.Python.Library
import Bindery.Target.Python.Wrapper
import Bindery.Target.R.Glue
import Bindery.Target.R.Wrapper
import Bindery.Target.Shell.Program

/-! # The parts of a rendered function

A function that a target has rendered has a signature, and every part of its text could be made from it. For each
target this file has one lemma that opens a rendering into its parts, so that nothing later has to unfold one. -/

namespace Bindery

/-! ### From the run to the signature -/

namespace Gen
variable {σ α β : Type} {name text : String} {r : Run σ}

theorem run_bind_eq_ok_iff {x : Gen σ α} {f : α → Gen σ β} {b : β} :
    ((x >>= f).run.run r).1 = .ok b ↔ ∃ a r', x.run.run r = (.ok a, r') ∧ ((f a).run.run r').1 = .ok b := by
  rw [run_bind]
  rcases x.run.run r with ⟨e | a, r'⟩
  · refine iff_of_false (fun h => nomatch h) ?_
    rintro ⟨_, _, ⟨⟩, -⟩
  · refine ⟨fun h => ⟨a, r', rfl, h⟩, ?_⟩
    rintro ⟨_, _, ⟨⟩, h⟩
    exact h

theorem eq_ok_of_run_ofExcept {v : Except Error α} {a : α} {r' : Run σ} (h : (ofExcept v).run.run r = (.ok a, r')) :
    v = .ok a ∧ r = r' := Prod.mk.inj ((run_ofExcept v r).symm.trans h)

/-- What is done with the signature of a function gives a value only if there is one. -/
theorem run_signature_eq_ok_iff {k : Signature → Gen σ α} {a : α} :
    ((catalog >>= fun c => ofExcept (Signature.resolve c name) >>= k).run.run r).1 = .ok a ↔
      ∃ s, Signature.resolve r.session.catalog name = .ok s ∧ ((k s).run.run r).1 = .ok a := by
  rw [run_bind_eq_ok_iff]
  constructor
  · rintro ⟨_, _, ⟨⟩, h⟩
    obtain ⟨s, _, hresolve, h⟩ := run_bind_eq_ok_iff.mp h
    obtain ⟨hs, rfl⟩ := eq_ok_of_run_ofExcept hresolve
    exact ⟨s, hs, h⟩
  · rintro ⟨s, hs, h⟩
    refine ⟨r.session.catalog, r, rfl, run_bind_eq_ok_iff.mpr ⟨s, r, ?_, h⟩⟩
    rw [run_ofExcept, hs]

/-- A rendering that uses nothing but the signature. -/
theorem run_ofSignature_eq_ok_iff {body : Signature → Except Error String} :
    ((catalog >>= fun c => ofExcept (Signature.resolve c name) >>= fun s => ofExcept (body s)).run.run r).1 = .ok text
      ↔ ∃ s, Signature.resolve r.session.catalog name = .ok s ∧ body s = .ok text := by
  rw [run_signature_eq_ok_iff]
  simp only [run_ofExcept]

theorem run_ofSignature_of_resolve {s : Signature} (hs : Signature.resolve r.session.catalog name = .ok s)
    (body : Signature → Except Error String) :
    ((catalog >>= fun c => ofExcept (Signature.resolve c name) >>= fun s => ofExcept (body s)).run.run r).1 = body s := by
  have hcatalog : (catalog : Gen σ Catalog).run.run r = (.ok r.session.catalog, r) := rfl
  simp only [run_bind, hcatalog, run_ofExcept, hs]

end Gen

namespace Signature
variable {s : Signature} {naming : Template.Naming}

/-- The texts that parameters give are theirs in the same order, without those of the parameters left out. -/
theorem fillAll_eq_ok_iff {template : TypedParam → String} {ps : List TypedParam} {texts : List String} :
    s.fillAll naming template ps = .ok texts ↔
      List.Forall₂ (fun p text => s.fill naming p (template p) = .ok text) (ps.filter (template · ≠ "")) texts :=
  mapM_eq_ok_iff_forall₂

end Signature

namespace Target

/-! ### R -/

namespace R.Wrapper
variable {s : Signature} {text : String}

/-- What the function of R is made of. -/
structure Parts where
  arguments : List String
  checks : List String
  call : List String
  outputs : List String

/-- The parts that a signature gives. -/
structure Parts.Of (x : Parts) (s : Signature) : Prop where
  arguments : Wrapper.arguments s = .ok x.arguments
  checks : s.facets .inConv naming s.params = .ok x.checks
  call : callArguments s = .ok x.call
  outputs : outputConversions s = .ok x.outputs

/-- The line of the call. -/
def callLine (function : String) (arguments : List String) : String :=
  s!"  res <- .Call(C_R_{function}, {Text.commaJoin arguments})\n"

/-- The function of R with the given parts. -/
def Parts.layout (x : Parts) (s : Signature) : String :=
  exportMark s.function ++ s!"{functionName s.function} <- function({Text.commaJoin x.arguments}) \x7b\n" ++
    "  # Argument checks\n" ++ block x.checks ++ "\n" ++ "  on.exit( .Call(C_R_igraph_finalizer) )\n" ++
    "  # Function call\n" ++ callLine s.name x.call ++ block x.outputs ++ postprocessing s.function ++ "  res\n\x7d\n\n"

theorem render_eq_ok_iff : render s = .ok text ↔ ∃ x : Parts, x.Of s ∧ text = x.layout s := by
  simp only [render, bind_eq_ok_iff, pure_eq_ok_iff]
  constructor
  · rintro ⟨arguments, ha, checks, hc, call, hcall, outputs, ho, rfl⟩
    exact ⟨⟨arguments, checks, call, outputs⟩, ⟨ha, hc, hcall, ho⟩, rfl⟩
  · rintro ⟨x, hx, rfl⟩
    exact ⟨_, hx.arguments, _, hx.checks, _, hx.call, _, hx.outputs, rfl⟩

/-- What a target writes in front of a function of R is its documentation. -/
theorem eq_ok_of_run {files : Files} {name : String} {r : Run (Option Docs)}
    (h : (((target files).render name).run.run r).1 = .ok text) :
    ∃ s docs, Signature.resolve r.session.catalog name = .ok s ∧ ∃ x : Parts, x.Of s ∧ text = docs ++ x.layout s := by
  obtain ⟨s, hs, h⟩ := Gen.run_signature_eq_ok_iff.mp h
  obtain ⟨docs, _, -, h⟩ := Gen.run_bind_eq_ok_iff.mp h
  obtain ⟨body, _, hbody, h⟩ := Gen.run_bind_eq_ok_iff.mp h
  obtain rfl := Except.ok.inj h
  obtain ⟨x, hx, rfl⟩ := render_eq_ok_iff.mp (Gen.eq_ok_of_run_ofExcept hbody).1
  exact ⟨s, docs, hs, x, hx, rfl⟩

end R.Wrapper

namespace R.Glue
variable {s : Signature} {text : String}

/-- What the function of C behind R is made of. -/
structure Parts where
  formals : List String
  declarations : List String
  inputs : List String
  call : List String
  outputs : List String

/-- The parts that a signature gives. -/
structure Parts.Of (x : Parts) (s : Signature) : Prop where
  formals : Glue.arguments s = .ok x.formals
  declarations : Glue.declarations s = .ok x.declarations
  inputs : s.facets .inConv glueNaming s.params = .ok x.inputs
  call : callArguments s = .ok x.call
  outputs : outputConversions s = .ok x.outputs

/-- The head of the function. -/
def headText (function : String) (formals : List String) : String := s!"SEXP R_{function}({Text.commaJoin formals})"

/-- Where the returned value goes: it is kept only if it is the result. -/
def assignment : ResultShape → String
  | .returned => "c_result="
  | _ => ""

/-- The call with its assignment. -/
def callText (function assignment : String) (arguments : List String) : String :=
  s!"{assignment}{function}({Text.commaJoin arguments});"

/-- The texts of the holes of the skeleton. -/
def Parts.fields (x : Parts) (s : Signature) : Entries String :=
  [("banner", bannerName s.name), ("header", headText s.name x.formals), ("decl", marginedLines x.declarations),
    ("inconv", marginedLines x.inputs), ("call", "  " ++ callText s.name (assignment s.shape) x.call),
    ("outconv", marginedLines x.outputs)]

theorem call_eq : call s = (callArguments s).map (callText s.name (assignment s.shape)) := by
  rw [call]
  cases s.shape <;> rfl

theorem render_eq_ok_iff : render s = .ok text ↔ ∃ x : Parts, x.Of s ∧ skeleton.fill (x.fields s) = .ok text := by
  simp only [render, header, call_eq, bind_eq_ok_iff, map_eq_ok_iff]
  constructor
  · rintro ⟨_, ⟨formals, hf, rfl⟩, declarations, hd, inputs, hi, _, ⟨call, hc, rfl⟩, outputs, ho, h⟩
    exact ⟨⟨formals, declarations, inputs, call, outputs⟩, ⟨hf, hd, hi, hc, ho⟩, h⟩
  · rintro ⟨x, hx, h⟩
    exact ⟨_, ⟨_, hx.formals, rfl⟩, _, hx.declarations, _, hx.inputs, _, ⟨_, hx.call, rfl⟩, _, hx.outputs, h⟩

theorem run_eq_ok_iff {name : String} {r : Run Unit} :
    ((target.render name).run.run r).1 = .ok text ↔
      ∃ s, Signature.resolve r.session.catalog name = .ok s ∧ render s = .ok text := Gen.run_ofSignature_eq_ok_iff

end R.Glue

/-! ### Java -/

namespace Java.Class
variable {text : String}

theorem render_eq_ok_iff {s : Signature} :
    render s = .ok text ↔ ∃ m, Method.ofSignature s = .ok m ∧ declaration m = text := map_eq_ok_iff

end Java.Class

namespace Java.Glue
variable {s : Signature} {text : String}

/-- What the function of C behind Java is made of. -/
structure Parts where
  method : Method
  declarations : List String
  inputs : List String
  call : List String
  outputs : List String

/-- The parts that a signature gives. -/
structure Parts.Of (x : Parts) (s : Signature) : Prop where
  method : Method.ofSignature s = .ok x.method
  declarations : Glue.declarations s x.method = .ok x.declarations
  inputs : s.facets .inConv inputNaming s.params = .ok x.inputs
  call : callArguments s = .ok x.call
  outputs : outputConversions s x.method = .ok x.outputs

/-- The call, unless an exception is pending. -/
def callText (function : String) (arguments : List String) : String :=
  "  if ((*env)->ExceptionCheck(env)) \x7b\n" ++ s!"    {callResult} = IGRAPH_EINVAL;\n" ++ "  \x7d else \x7b\n" ++
    s!"    {callResult} = {function}({Text.commaJoin arguments});\n" ++ "  \x7d"

/-- The texts of the holes of the skeleton. -/
def Parts.fields (x : Parts) (s : Signature) : Entries String :=
  [("banner", bannerName s.name), ("header", header x.method), ("decl", marginedLines x.declarations),
    ("inconv", marginedLines x.inputs), ("call", callText s.name x.call), ("outconv", marginedLines x.outputs),
    ("ret", ending x.method)]

theorem render_eq_ok_iff : render s = .ok text ↔ ∃ x : Parts, x.Of s ∧ skeleton.fill (x.fields s) = .ok text := by
  have hcall : call s = (callArguments s).map (callText s.name) := rfl
  simp only [render, hcall, bind_eq_ok_iff, map_eq_ok_iff]
  constructor
  · rintro ⟨m, hm, declarations, hd, inputs, hi, _, ⟨call, hc, rfl⟩, outputs, ho, h⟩
    exact ⟨⟨m, declarations, inputs, call, outputs⟩, ⟨hm, hd, hi, hc, ho⟩, h⟩
  · rintro ⟨x, hx, h⟩
    exact ⟨_, hx.method, _, hx.declarations, _, hx.inputs, _, ⟨_, hx.call, rfl⟩, _, hx.outputs, h⟩

theorem run_eq_ok_iff {name : String} {r : Run Unit} :
    ((target.render name).run.run r).1 = .ok text ↔
      ∃ s, Signature.resolve r.session.catalog name = .ok s ∧ render s = .ok text := Gen.run_ofSignature_eq_ok_iff

end Java.Glue

/-! ### Python -/

namespace Python.Library
variable {s : Signature} {text : String}

/-- The declaration of a function with its result type and the types of its arguments. -/
def layout (function result : String) (arguments : List String) : String :=
  s!"\n{function} = _lib.{function}\n" ++ s!"{function}.restype = {result}\n" ++
    s!"{function}.argtypes = [{Text.commaJoin arguments}]\n"

theorem render_eq_ok_iff {uses : List (TypeInfo × String)} :
    render s = .ok (text, uses) ↔
      ∃ result arguments, resultType s = .ok result ∧ argumentTypes s = .ok arguments ∧
        text = layout s.name result (arguments.map (·.2)) ∧ uses = (s.returnType, result) :: arguments := by
  simp only [render, bind_eq_ok_iff, pure_eq_ok_iff, Prod.mk.injEq]
  constructor
  · rintro ⟨result, hr, arguments, ha, rfl, rfl⟩
    exact ⟨result, arguments, hr, ha, rfl, rfl⟩
  · rintro ⟨result, arguments, hr, ha, rfl, rfl⟩
    exact ⟨result, hr, arguments, ha, rfl, rfl⟩

theorem eq_ok_of_run {name : String} {r : Run Aliases} (h : ((target.render name).run.run r).1 = .ok text) :
    ∃ s uses, Signature.resolve r.session.catalog name = .ok s ∧ render s = .ok (text, uses) := by
  obtain ⟨s, hs, h⟩ := Gen.run_signature_eq_ok_iff.mp h
  obtain ⟨⟨text', uses⟩, _, hrender, h⟩ := Gen.run_bind_eq_ok_iff.mp h
  obtain rfl : text' = text := Except.ok.inj h
  exact ⟨s, uses, hs, (Gen.eq_ok_of_run_ofExcept hrender).1⟩

end Python.Library

namespace Python.Wrapper
variable {s : Signature} {text : String}

/-- What the function of Python is made of. -/
structure Parts where
  types : List String
  parameters : List String
  inputs : List String
  outputs : List String

/-- The parts that a signature gives; every parameter must have a type of Python. -/
structure Parts.Of (x : Parts) (s : Signature) : Prop where
  typed : ∃ all, s.params.mapM (fun p => requireType s.name p.type) = .ok all
  types : (returnedTypes s).mapM (requireType s.name) = .ok x.types
  parameters : signatureTexts s = .ok x.parameters
  inputs : inputLines s = .ok x.inputs
  outputs : outputLines s = .ok x.outputs

/-- The lines up to the call. -/
def Parts.front (x : Parts) (s : Signature) : List String :=
  ["", s!"def {functionName s.function}({Text.commaJoin x.parameters}) -> {resultAnnotation x.types}:"] ++
    body [s!"\"\"\"Type-annotated wrapper for ``{s.name}``.\"\"\""] ++ part [] "Prepare input arguments" x.inputs [""]

/-- The lines after the call. -/
def Parts.back (x : Parts) (s : Signature) : List String :=
  part [""] "Prepare output arguments" x.outputs [] ++ part [""] "Construct return value" (returnLines s) []

/-- The function of Python with the given parts. -/
def Parts.layout (x : Parts) (s : Signature) : String :=
  "\n" ++ Text.joinWith "\n" (x.front s ++ body ["# Call wrapped function", callLine s] ++ x.back s) ++ "\n"

theorem render_eq_ok_iff : render s = .ok text ↔ ∃ x : Parts, x.Of s ∧ text = x.layout s := by
  have hcall : part [] "Call wrapped function" [callLine s] [] = body ["# Call wrapped function", callLine s] := by
    rw [part, if_neg (List.cons_ne_nil _ _), List.nil_append, List.append_nil]
    rfl
  simp only [render, hcall, bind_eq_ok_iff, pure_eq_ok_iff]
  constructor
  · rintro ⟨all, hall, types, ht, parameters, hp, inputs, hi, outputs, ho, rfl⟩
    refine ⟨⟨types, parameters, inputs, outputs⟩, ⟨⟨all, hall⟩, ht, hp, hi, ho⟩, ?_⟩
    rw [Parts.layout, Parts.front, Parts.back, ← List.append_assoc]
  · rintro ⟨x, hx, rfl⟩
    obtain ⟨all, hall⟩ := hx.typed
    refine ⟨all, hall, _, hx.types, _, hx.parameters, _, hx.inputs, _, hx.outputs, ?_⟩
    rw [Parts.layout, Parts.front, Parts.back, ← List.append_assoc]

theorem run_eq_ok_iff {name : String} {r : Run Unit} :
    ((target.render name).run.run r).1 = .ok text ↔
      ∃ s, Signature.resolve r.session.catalog name = .ok s ∧ render s = .ok text := Gen.run_ofSignature_eq_ok_iff

end Python.Wrapper

/-! ### The shell -/

namespace Shell.Program
variable {s : Signature} {text : String}

/-- What a command is made of. -/
structure Parts where
  declarations : List String
  input : String
  call : List String
  outputs : List String

/-- The parts that a signature gives. -/
structure Parts.Of (x : Parts) (s : Signature) : Prop where
  declarations : Program.declarations s = .ok x.declarations
  input : inputText s (choices s) = .ok x.input
  call : callArguments s = .ok x.call
  outputs : outputConversions s = .ok x.outputs

/-- The call. -/
def callText (function : String) (arguments : List String) : String :=
  s!"shell_result = {function}({Text.commaJoin arguments});"

/-- The texts of the holes of the skeleton. -/
def Parts.fields (x : Parts) (s : Signature) : Entries String :=
  [("func", s.name), ("banner", bannerName s.name), ("usage", usageLine (choices s)),
    ("decl", marginedLines x.declarations), ("nargs", toString (choices s).length), ("args", optionTable (choices s)),
    ("default", marginedLines (defaultLines s (choices s))), ("inconv", x.input),
    ("call", "  " ++ callText s.name x.call), ("outconv", marginedLines x.outputs)]

theorem render_eq_ok_iff : render s = .ok text ↔ ∃ x : Parts, x.Of s ∧ skeleton.fill (x.fields s) = .ok text := by
  have hcall : call s = (callArguments s).map (callText s.name) := rfl
  simp only [render, hcall, bind_eq_ok_iff, map_eq_ok_iff]
  constructor
  · rintro ⟨declarations, hd, input, hi, _, ⟨call, hc, rfl⟩, outputs, ho, h⟩
    exact ⟨⟨declarations, input, call, outputs⟩, ⟨hd, hi, hc, ho⟩, h⟩
  · rintro ⟨x, hx, h⟩
    exact ⟨_, hx.declarations, _, hx.input, _, ⟨_, hx.call, rfl⟩, _, hx.outputs, h⟩

theorem run_eq_ok_iff {name : String} {r : Run Unit} :
    ((target.render name).run.run r).1 = .ok text ↔
      ∃ s, Signature.resolve r.session.catalog name = .ok s ∧ render s = .ok text := Gen.run_ofSignature_eq_ok_iff

end Shell.Program

end Target
end Bindery
