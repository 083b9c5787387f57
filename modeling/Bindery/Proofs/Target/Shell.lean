import Bindery.Proofs.Catalog.Loads
import Bindery.Proofs.Signature
import Bindery.Proofs.Target.Completion
import Bindery.Proofs.Target.Determined
import Bindery.Proofs.Target.Parts
import Bindery.Proofs.Text.Contains

/-! # Commands of the shell

The program for the shell has a prototype and a branch for every function that is generated, and then the functions
themselves. A function that cannot be rendered leaves a comment where its command would be defined. So all that is
dispatched to is defined exactly if no rendering fails (`functions_of_validate`). -/

namespace Bindery.Target.Shell.Program
open Catalog (Load)

variable {c : Catalog} {config : Config} {names : List String} {name text : String}

/-! ### Commands -/

/-- The head of the definition of a command. -/
def definition (name : String) : String := s!"int shell_{name}(int argc, char **argv) \x7b"

/-- The line that declares a command. -/
def prototypeText (name : String) : String := s!"int shell_{name}(int argc, char **argv);\n"

/-- What runs a command if the program is called by its name. -/
def branchText (name : String) : String :=
  s!"if (!strcasecmp(base, \"{name}\")) \x7b\n    return shell_{name}(argc, argv);\n  \x7d else "

/-- A program that declares commands and dispatches to them, and then what is written for each of them. -/
def programText (names bodies : List String) : String :=
  "\n/* Function prototypes first */\n\n" ++ String.join (names.map prototypeText) ++
    "\n/* The main function */\n\nint main(int argc, char **argv) \x7b\n\n" ++
    "  const char *base=basename(argv[0]);\n\n  " ++ String.join (names.map branchText) ++
    "\x7b\n    printf(\"Unknown function, exiting\\n\");\n" ++
    "  \x7d\n\n  shell_igraph_usage(argc, argv);\n\n  return 0;\n\x7d\n" ++
    "\n/* The functions themselves at last */\n" ++ String.join bodies

/-- The command of a function of a catalog. -/
def rendering (c : Catalog) (name : String) : Except Error String := Signature.resolve c name >>= render

/-- The functions whose commands can be rendered. -/
def defined (c : Catalog) (names : List String) : List String := names.filter fun name => (rendering c name).isOk

theorem run_render (name : String) (r : Run Unit) :
    (renderer.render name).run.run r = (rendering r.session.catalog name, r) := by
  have hcatalog : (Gen.catalog : Gen Unit Catalog).run.run r = (.ok r.session.catalog, r) := rfl
  have hrender : renderer.render name =
      (Gen.catalog >>= fun c => Gen.ofExcept (Signature.resolve c name) >>= fun s => Gen.ofExcept (render s)) := rfl
  rw [hrender, Gen.run_bind, hcatalog]
  simp only [Gen.run_bind, Gen.run_ofExcept, rendering]
  cases Signature.resolve r.session.catalog name <;> rfl

theorem rendering_perFunction (hc : c.validate = .ok ()) (hname : name ∈ Entries.names c.functions) :
    PerFunction (rendering c name) :=
  (Signature.resolve_perFunction hc hname).bind render_perFunction

/-- A command that is rendered is defined. -/
theorem contains_definition {s : Signature} (h : render s = .ok text) : Text.contains (definition s.name) text := by
  obtain ⟨x, -, hfill⟩ := render_eq_ok_iff.mp h
  have hpart : [Template.Part.fixed "\n  exit(1);\n\x7d\n\nint shell_", .hole "func",
      .fixed "(int argc, char **argv) \x7b\n\n"] <:+: skeleton := ⟨skeleton.take 6, skeleton.drop 9, rfl⟩
  refine Text.contains_trans ?_ (Template.Skeleton.contains_of_fill hfill hpart rfl)
  have hglued := Text.contains_glued s.name
    (by decide : "\n  exit(1);\n\x7d\n\nint shell_" = "\n  exit(1);\n\x7d\n\n" ++ "int shell_")
    (by decide : "(int argc, char **argv) \x7b\n\n" = "(int argc, char **argv) \x7b" ++ "\n\n")
  show Text.contains (definition s.name)
    ("\n  exit(1);\n\x7d\n\nint shell_" ++ (s.name ++ ("(int argc, char **argv) \x7b\n\n" ++ "")))
  rw [String.append_empty, ← String.append_assoc]
  exact hglued

theorem quiet : renderer.Quiet := fun name r => by rw [run_render]

/-! ### All commands -/

theorem determined : renderer.Determined rendering fun _ _ state => state := fun name r => run_render name r

theorem rendersEach_of_perFunction (names : List String) (h : ∀ name ∈ names, PerFunction (rendering c name))
    {r : Run Unit} (hr : r.session.catalog = c) :
    ∃ r', renderer.RendersEach r (names.map fun name => (name, rendering c name)) r' := by
  subst hr
  exact ⟨_, determined.rendersEach h⟩

/-- The block of commands, with what is recorded of those that are not defined. -/
structure Block (c : Catalog) (names : List String) (failures : List Diagnostic) (text : String) : Prop where
  written : text = programText names (names.map fun name => renderer.shown (name, rendering c name))
  dispatches : ∀ name ∈ names, Text.contains (prototypeText name) text ∧ Text.contains (branchText name) text
  defines : ∀ name ∈ defined c names, ∃ body, rendering c name = .ok body ∧ Text.contains (definition name) body ∧
    Text.contains body text
  dispatched : (defined c names).Sublist names
  diagnosed : failures = names.filterMap fun name => Renderer.diagnosed? (name, rendering c name)
  all_defined_iff : defined c names = names ↔ failures = []

theorem programText_eq (names bodies : List String) :
    programText names bodies = dispatcher names ++ String.join bodies := rfl

theorem contains_programText (bodies : List String) (h : name ∈ names) :
    Text.contains (prototypeText name) (programText names bodies) ∧
      Text.contains (branchText name) (programText names bodies) := by
  have hprototype := Text.contains_join (List.mem_map_of_mem (f := prototypeText) h)
  have hbranch := Text.contains_join (List.mem_map_of_mem (f := branchText) h)
  constructor
  · refine Text.contains_append_right _ <| Text.contains_append_right _ <| Text.contains_append_right _ ?_
    refine Text.contains_append_right _ <| Text.contains_append_right _ <| Text.contains_append_right _ ?_
    exact Text.contains_append_right _ (Text.contains_append_left _ hprototype)
  · refine Text.contains_append_right _ <| Text.contains_append_right _ <| Text.contains_append_right _ ?_
    exact Text.contains_append_right _ (Text.contains_append_left _ hbranch)

theorem isOk_rendering_iff : (rendering c name).isOk ↔ Renderer.diagnosed? (name, rendering c name) = none := by
  cases rendering c name <;> simp [Except.isOk, Except.toBool, Renderer.diagnosed?]

theorem block_of_named (hnamed : ∀ name f, c.function? name = some f → f.name = name) (names : List String) :
    Block c names (names.filterMap fun name => Renderer.diagnosed? (name, rendering c name))
      (programText names (names.map fun name => renderer.shown (name, rendering c name))) where
  written := rfl
  dispatches name h := contains_programText _ h
  defines name h := by
    obtain ⟨hname, hok⟩ := List.mem_filter.mp h
    cases hbody : rendering c name with
    | error e =>
      rw [hbody] at hok
      cases hok
    | ok body =>
      obtain ⟨s, hs, hrender⟩ := bind_eq_ok_iff.mp hbody
      obtain ⟨f, hf, hs⟩ := Signature.resolve_eq_ok_iff.mp hs
      obtain ⟨-, -, -, -, rfl, -⟩ := Signature.ofFunction_eq_ok hs
      have hdefinition := contains_definition hrender
      rw [Signature.name, hnamed name s.function hf] at hdefinition
      have hshown : body ∈ names.map fun name => renderer.shown (name, rendering c name) :=
        List.mem_map.mpr ⟨name, hname, by rw [hbody, Renderer.shown]⟩
      exact ⟨body, rfl, hdefinition, Text.contains_append_left _ (Text.contains_join hshown)⟩
  dispatched := List.filter_sublist
  diagnosed := rfl
  all_defined_iff := by
    rw [defined, List.filter_eq_self, List.filterMap_eq_nil_iff]
    simp only [isOk_rendering_iff]

/-- What a validated catalog is dispatched to is what is generated; what is defined are the functions among it that can
be rendered. The others are recorded. -/
theorem functions_of_validate (strict : Bool) (loads : List Load)
    (hc : ((Catalog.empty strict).run loads).validate = .ok ()) {r : Run Unit}
    (hr : r.session.Of ((Catalog.empty strict).run loads) config) :
    ∃ text r' failures, target.functions.run.run r = (.ok text, r') ∧
      r'.session.diagnostics = r.session.diagnostics ++ failures ∧
      Block ((Catalog.empty strict).run loads) r.session.generatable.2 failures text := by
  have hloaded := (Catalog.loaded_empty strict).run loads
  rw [List.nil_append] at hloaded
  generalize (Catalog.empty strict).run loads = c at hc hr hloaded ⊢
  obtain ⟨hdecided, hnames⟩ := hr.keep (Entries.names r.session.catalog.functions)
  obtain ⟨r', hresults⟩ := rendersEach_of_perFunction r.session.generatable.2
    (fun name hname => rendering_perFunction hc (hnames name hname)) (r := r.decided) hdecided.catalog
  have hfirst : (r.session.generatable.2.map fun name => (name, rendering c name)).map (·.1) =
      r.session.generatable.2 := by simp [Function.comp_def]
  have hrun := hresults.run_eq_ok
  rw [hfirst, List.map_map] at hrun
  have hdiagnostics := hresults.diagnostics quiet
  have hgeneratable : (Gen.generatable : Gen Unit (List String)).run.run r =
      (.ok r.session.generatable.2, r.decided) := rfl
  have hfunctions : target.functions = (Gen.generatable >>= fun names =>
      renderer.renderEach names >>= fun bodies => pure (dispatcher names ++ bodies)) := rfl
  refine ⟨_, r', _, ?_, ?_, block_of_named (fun _ _ => hloaded.name_of_function?) _⟩
  · rw [hfunctions, Gen.run_bind, hgeneratable]
    simp only [Gen.run_bind, hrun, programText_eq]
    rfl
  · obtain ⟨decisions, hkeep⟩ := r.session.keep_fst (Entries.names r.session.catalog.functions)
    have hbefore : r.decided.session.diagnostics = r.session.diagnostics := by
      rw [Run.decided, Session.generatable, hkeep]
    rw [hdiagnostics, hbefore, List.filterMap_map]
    rfl

/-- A function `f` with a parameter of this type, where `INT` is the only type of parameters that is known. -/
def sources (type : String) : List Load :=
  [.functions [("f", .map [("PARAMS", .text (type ++ " x"))])], .types [("INT", .map []), ("ERROR", .map [])]]

/-- The only function is dispatched to and defined. -/
theorem functions_of_validate_defined :
    let c := (Catalog.empty true).run (sources "INT")
    c.validate = .ok () ∧ ∃ text failures, (target.functions.run.run ⟨.start c "Shell" .default, ()⟩).1 = .ok text ∧
      Block c ["f"] failures text ∧ defined c ["f"] = ["f"] := by
  intro c
  have hc : c.validate = .ok () := by decide +kernel
  let r : Run Unit := ⟨.start c "Shell" .default, ()⟩
  have hr : r.session.Of c .default := Session.of_start c "Shell" .default
  obtain ⟨text, r', failures, hrun, -, hblock⟩ := functions_of_validate true (sources "INT") hc hr
  have hnames : r.session.generatable.2 = ["f"] := by decide +kernel
  exact ⟨hc, text, failures, congrArg (·.1) hrun, hnames ▸ hblock, by decide +kernel⟩

/-- The only function is dispatched to, and not defined: the type of its parameter is not known. -/
theorem dispatches_to_undefined :
    let c := (Catalog.empty true).run (sources "X")
    c.validate = .ok () ∧ defined c ["f"] = [] ∧ (target.functions.run.run ⟨.start c "Shell" .default, ()⟩).1 =
      .ok ("\n/* Function prototypes first */\n\nint shell_f(int argc, char **argv);\n\n/* The main function */\n\n" ++
        "int main(int argc, char **argv) \x7b\n\n  const char *base=basename(argv[0]);\n\n" ++
        "  if (!strcasecmp(base, \"f\")) \x7b\n    return shell_f(argc, argv);\n  \x7d else \x7b\n" ++
        "    printf(\"Unknown function, exiting\\n\");\n  \x7d\n\n  shell_igraph_usage(argc, argv);\n\n" ++
        "  return 0;\n\x7d\n\n/* The functions themselves at last */\n" ++
        "/* ERROR: Unknown type 'X' in function 'f' */\n") := by
  intro c
  refine ⟨by decide +kernel, by decide +kernel, by decide +kernel⟩

end Bindery.Target.Shell.Program
