import Bindery.Proofs.Session
import Bindery.Proofs.Target.Runs
import Bindery.Target.Named

/-! # Functions one by one

A target whose parts are the usual ones writes its inputs around the functions to generate, which it renders one by one.
A failure that concerns a function alone costs this function only: it is recorded, and a comment takes its place. Any
other failure ends the run with the functions before it rendered and none after it. A rendering might record something
of its own; the targets that there are do not (`Generator.quiet_of_ofName?`). -/

namespace Bindery

/-! ### Rendering one by one -/

/-- The run with further diagnostics. -/
def Run.diagnosing {σ : Type} (r : Run σ) (ds : List Diagnostic) : Run σ :=
  { r with session := { r.session with diagnostics := r.session.diagnostics ++ ds } }

@[simp]
theorem Run.diagnosing_nil {σ : Type} (r : Run σ) : r.diagnosing [] = r := by simp [diagnosing]

@[simp]
theorem Run.diagnosing_diagnostics {σ : Type} (r : Run σ) (ds : List Diagnostic) :
    (r.diagnosing ds).session.diagnostics = r.session.diagnostics ++ ds := rfl

theorem Run.record_eq {σ : Type} (r : Run σ) (function : String) (e : Error) :
    { r with session := r.session.record function e } = r.diagnosing [⟨function, e.message⟩] := rfl

namespace Renderer
open Gen
variable {σ : Type} {R : Renderer σ}

/-- What stands in the output for a function: its text, or a comment on its failure. -/
def shown (R : Renderer σ) : String × Except Error String → String
  | (_, .ok text) => text
  | (_, .error e) => R.comment e.message

/-- The diagnostic of a rendering that failed. -/
def diagnosed? : String × Except Error String → Option Diagnostic
  | (_, .ok _) => none
  | (function, .error e) => some ⟨function, e.message⟩

/-- Functions are rendered one after the other, each once and from the run that the one before has left, with these
results. A failure among them concerns its function alone, and one diagnostic with its text is added. -/
inductive RendersEach (R : Renderer σ) : Run σ → List (String × Except Error String) → Run σ → Prop
  | nil (r : Run σ) : RendersEach R r [] r
  | text {r r₁ r' : Run σ} {function text : String} {rest : List (String × Except Error String)}
      (h : (R.render function).run.run r = (.ok text, r₁)) (hrest : RendersEach R r₁ rest r') :
      RendersEach R r ((function, .ok text) :: rest) r'
  | failure {r r₁ r' : Run σ} {function : String} {e : Error} {rest : List (String × Except Error String)}
      (h : (R.render function).run.run r = (.error e, r₁)) (he : e.isPerFunction = true)
      (hrest : RendersEach R (r₁.diagnosing [⟨function, e.message⟩]) rest r') :
      RendersEach R r ((function, .error e) :: rest) r'

/-- No rendering records anything of its own. -/
def Quiet (R : Renderer σ) : Prop :=
  ∀ function r, ((R.render function).run.run r).2.session.diagnostics = r.session.diagnostics

/-- Functions are rendered up to the first that fails for a reason which does not concern it alone. -/
def StopsAt (R : Renderer σ) (r : Run σ) (functions : List String) (e : Error) (r' : Run σ) : Prop :=
  ∃ (done : List (String × Except Error String)) (function : String) (rest : List String) (r₁ : Run σ),
    functions = done.map (·.1) ++ function :: rest ∧ R.RendersEach r done r₁ ∧
      (R.render function).run.run r₁ = (.error e, r') ∧ e.isPerFunction = false

section
variable {r r' : Run σ} {function : String} {outcome : Except Error String}
  {done rest : List (String × Except Error String)}

theorem rendersEach_cons_iff : R.RendersEach r ((function, outcome) :: rest) r' ↔
    ∃ left, (R.render function).run.run r = (outcome, left) ∧ (∀ e, outcome = .error e → e.isPerFunction = true) ∧
      R.RendersEach (left.diagnosing (diagnosed? (function, outcome)).toList) rest r' := by
  constructor
  · rintro (_ | ⟨h, hrest⟩ | ⟨h, he, hrest⟩)
    · refine ⟨_, h, ?_, ?_⟩
      · rintro _ ⟨⟩
      · rwa [diagnosed?, Option.toList_none, Run.diagnosing_nil]
    · refine ⟨_, h, ?_, hrest⟩
      rintro _ ⟨⟩
      exact he
  · rintro ⟨left, h, he, hrest⟩
    cases outcome with
    | ok text =>
      rw [diagnosed?, Option.toList_none, Run.diagnosing_nil] at hrest
      exact .text h hrest
    | error e => exact .failure h (he e rfl) hrest

theorem rendersEach_append_iff : R.RendersEach r (done ++ rest) r' ↔
    ∃ before, R.RendersEach r done before ∧ R.RendersEach before rest r' := by
  induction done generalizing r with
  | nil =>
    refine ⟨fun h => ⟨r, .nil r, h⟩, ?_⟩
    rintro ⟨_, ⟨⟩, h⟩
    exact h
  | cons result done ih =>
    obtain ⟨function, outcome⟩ := result
    simp only [List.cons_append, rendersEach_cons_iff, ih]
    constructor
    · rintro ⟨left, h, he, before, hdone, hrest⟩
      exact ⟨before, ⟨left, h, he, hdone⟩, hrest⟩
    · rintro ⟨before, ⟨left, h, he, hdone⟩, hrest⟩
      exact ⟨left, h, he, before, hdone, hrest⟩

end

theorem RendersEach.run_renderEach {r r' : Run σ} {results : List (String × Except Error String)}
    (h : R.RendersEach r results r') (more : List String) :
    (R.renderEach (results.map (·.1) ++ more)).run.run r =
      match (R.renderEach more).run.run r' with
      | (.ok tail, r'') => (.ok (String.join (results.map R.shown) ++ tail), r'')
      | (.error e, r'') => (.error e, r'') := by
  induction h with
  | nil r =>
    rcases h : (R.renderEach more).run.run r with ⟨_ | _, _⟩ <;> simp [h]
  | text h _ ih =>
    rw [List.map_cons, List.cons_append, run_renderEach_cons, run_guarded, h]
    simp only [ih]
    rcases (R.renderEach more).run.run _ with ⟨_ | _, _⟩
    · rfl
    · simp [shown, String.append_assoc]
  | failure h he _ ih =>
    rw [List.map_cons, List.cons_append, run_renderEach_cons, run_guarded, h]
    simp only [he, if_true, Run.record_eq, ih]
    rcases (R.renderEach more).run.run _ with ⟨_ | _, _⟩
    · rfl
    · simp [shown, String.append_assoc]

theorem RendersEach.run_eq_ok {r r' : Run σ} {results : List (String × Except Error String)}
    (h : R.RendersEach r results r') :
    (R.renderEach (results.map (·.1))).run.run r = (.ok (String.join (results.map R.shown)), r') := by
  have hnil : (R.renderEach []).run.run r' = (.ok "", r') := rfl
  have hrun := h.run_renderEach []
  simpa only [List.append_nil, hnil, String.append_empty] using hrun

theorem StopsAt.run_eq_error {r r' : Run σ} {functions : List String} {e : Error} (h : R.StopsAt r functions e r') :
    (R.renderEach functions).run.run r = (.error e, r') := by
  obtain ⟨done, function, rest, r₁, rfl, hdone, hfunction, he⟩ := h
  rw [hdone.run_renderEach, run_renderEach_cons, run_guarded, hfunction]
  simp [he]

theorem rendersEach_or_stopsAt (R : Renderer σ) (functions : List String) (r : Run σ) :
    (∃ results r', results.map (·.1) = functions ∧ R.RendersEach r results r') ∨
      ∃ e r', R.StopsAt r functions e r' := by
  induction functions generalizing r with
  | nil => exact Or.inl ⟨[], r, rfl, .nil r⟩
  | cons function rest ih =>
    rcases h : (R.render function).run.run r with ⟨e | text, r₁⟩
    · cases he : e.isPerFunction with
      | true =>
        rcases ih (r₁.diagnosing [⟨function, e.message⟩]) with
          ⟨results, r', rfl, hresults⟩ | ⟨e', r', done, function', rest', r₂, rfl, hdone, hstop⟩
        · exact Or.inl ⟨(function, .error e) :: results, r', rfl, .failure h he hresults⟩
        · exact Or.inr ⟨e', r', (function, .error e) :: done, function', rest', r₂, rfl, .failure h he hdone, hstop⟩
      | false => exact Or.inr ⟨e, r₁, [], function, rest, r, rfl, .nil r, h, he⟩
    · rcases ih r₁ with ⟨results, r', rfl, hresults⟩ | ⟨e', r', done, function', rest', r₂, rfl, hdone, hstop⟩
      · exact Or.inl ⟨(function, .ok text) :: results, r', rfl, .text h hresults⟩
      · exact Or.inr ⟨e', r', (function, .ok text) :: done, function', rest', r₂, rfl, .text h hdone, hstop⟩

/-- Where nothing else is recorded, the diagnostics are those of the failures in their order. -/
theorem RendersEach.diagnostics {r r' : Run σ} {results : List (String × Except Error String)} (hquiet : R.Quiet)
    (h : R.RendersEach r results r') :
    r'.session.diagnostics = r.session.diagnostics ++ results.filterMap diagnosed? := by
  induction results generalizing r with
  | nil =>
    cases h
    simp
  | cons result rest ih =>
    obtain ⟨function, outcome⟩ := result
    obtain ⟨left, hrender, -, hrest⟩ := rendersEach_cons_iff.mp h
    have hleft := hquiet function r
    rw [hrender] at hleft
    rw [ih hrest, Run.diagnosing_diagnostics, hleft, List.append_assoc]
    cases outcome <;> rfl

end Renderer

/-! ### The targets that there are -/

section
open Gen (Keeps Any)
variable {σ α β : Type} {session : Session}

/-- A run of this session. -/
def Run.IsOf (session : Session) (r : Run σ) : Prop := r.session = session

theorem Renderer.quiet_of_keeps {R : Renderer σ}
    (h : ∀ session function, Keeps (Run.IsOf session) Any Any (R.render function)) : R.Quiet := by
  intro function r
  have hends := h r.session function r rfl
  rcases hrun : (R.render function).run.run r with ⟨_ | _, r'⟩ <;> rw [hrun] at hends <;>
    exact congrArg Session.diagnostics hends.1

/-- What is looked up in the catalog changes nothing. -/
theorem Gen.keeps_looked {look : Catalog → Except Error α} {k : Catalog → α → Gen σ β}
    (hk : ∀ c a, Keeps (Run.IsOf session) Any Any (k c a)) :
    Keeps (Run.IsOf session) Any Any (catalog >>= fun c => ofExcept (look c) >>= k c) := by
  have hcatalog : Keeps (Run.IsOf session) Any Any (catalog : Gen σ Catalog) := fun _ hr => ⟨hr, trivial⟩
  exact hcatalog.bind fun c _ => (Keeps.ofExcept fun _ _ => trivial).bind fun a _ => hk c a

theorem Gen.keeps_ofExcept (v : Except Error α) : Keeps (Run.IsOf session) Any Any (ofExcept v : Gen σ α) :=
  Keeps.ofExcept fun _ _ => trivial

/-- The state of a target is no part of the session. -/
theorem Gen.keeps_noted (f : σ → σ) {x : Gen σ α} (hx : Keeps (Run.IsOf session) Any Any x) :
    Keeps (Run.IsOf session) Any Any (modifyState f >>= fun _ => x) := by
  have hmodify : Keeps (Run.IsOf session) Any Any (modifyState f) := fun _ hr => ⟨hr, trivial⟩
  exact hmodify.bind fun _ _ => hx

theorem Target.R.Wrapper.quiet (files : Files) : (target files).Quiet := by
  refine Renderer.quiet_of_keeps fun session function => Gen.keeps_looked fun _ s => ?_
  have hstate : Keeps (Run.IsOf session) Any Any (Gen.state : Gen (Option Docs) (Option Docs)) :=
    fun _ hr => ⟨hr, trivial⟩
  have hdocs : Keeps (Run.IsOf session) Any Any (documentation files function) := by
    refine hstate.bind fun docs? _ => ?_
    cases docs? with
    | none => exact .pure trivial
    | some docs => exact Gen.keeps_noted _ ((Gen.keeps_ofExcept _).bind fun _ _ => .pure trivial)
  exact hdocs.bind fun _ _ => (Gen.keeps_ofExcept _).bind fun _ _ => .pure trivial

/-- No target records anything while it renders a function. -/
theorem Generator.quiet_of_ofName? {files : Files} {docFolder? : Option String} {name : String} {g : Generator}
    (hg : ofName? files docFolder? name = some g) : g.target.Quiet := by
  unfold ofName? at hg
  split at hg <;> cases hg
  · exact Target.R.Wrapper.quiet files
  · exact Renderer.quiet_of_keeps fun _ _ => Gen.keeps_looked fun _ _ => Gen.keeps_ofExcept _
  · exact Renderer.quiet_of_keeps fun _ _ => Gen.keeps_looked fun _ _ => .pure trivial
  · exact Renderer.quiet_of_keeps fun _ _ => Gen.keeps_looked fun _ _ => Gen.keeps_ofExcept _
  · exact Renderer.quiet_of_keeps fun _ _ => Gen.keeps_looked fun _ _ => Gen.keeps_ofExcept _
  · exact Renderer.quiet_of_keeps fun _ _ => Gen.keeps_looked fun _ s =>
      (Gen.keeps_ofExcept (Target.Python.Library.render s)).bind fun _ _ => Gen.keeps_noted _ (.pure trivial)
  · exact Renderer.quiet_of_keeps fun _ _ => Gen.keeps_looked fun _ _ => Gen.keeps_ofExcept _
  · exact Renderer.quiet_of_keeps fun _ _ => Gen.keeps_looked fun _ _ => Gen.keeps_ofExcept _
  · exact Renderer.quiet_of_keeps fun _ _ => .pure trivial
  · exact Renderer.quiet_of_keeps fun _ _ => Gen.keeps_looked fun _ f =>
      (Gen.keeps_ofExcept (Target.Check.TypeUse.uses f)).bind fun _ _ => Gen.keeps_noted _ (.pure trivial)
  · exact Renderer.quiet_of_keeps fun _ _ => Gen.keeps_looked fun c f =>
      (Gen.keeps_ofExcept (Target.Check.Prototype.render c.types f)).bind fun _ _ => Gen.keeps_noted _ (.pure trivial)

end

/-! ### The output -/

/-- A run when it has been decided which functions are generated, before the first is rendered. -/
def Run.decided {σ : Type} (r : Run σ) : Run σ := { r with session := r.session.generatable.1 }

namespace Target
open Gen
variable {σ : Type} {t : Target σ}

/-- A target that writes its inputs around its functions and leaves all parts of its output as they usually are. -/
structure Plain (t : Target σ) : Prop where
  composition : t.composition = .single
  preamble : t.preamble = fun inputs => pure (verbatim inputs)
  functions : t.functions = t.renderAll
  epilogue : t.epilogue = fun inputs => pure (verbatim inputs)

theorem Plain.run_generate (h : t.Plain) (inputs : Inputs) (r : Run σ) :
    (t.generate inputs).run.run r =
      match (t.renderEach r.session.generatable.2).run.run r.decided with
      | (.ok body, r') => (.ok (verbatim inputs.preamble ++ body ++ verbatim inputs.epilogue), r')
      | (.error e, r') => (.error e, r') := by
  have hcompose : t.generate inputs = (t.renderAll >>= fun body =>
      pure (verbatim inputs.preamble ++ body ++ verbatim inputs.epilogue)) := by
    rw [generate, h.composition]
    simp [composeSingle, h.preamble, h.functions, h.epilogue]
  have hall : t.renderAll.run.run r = (t.renderEach r.session.generatable.2).run.run r.decided := rfl
  rw [hcompose, run_bind, hall]
  rcases (t.renderEach r.session.generatable.2).run.run r.decided with ⟨_ | _, _⟩ <;> rfl

/-- The texts of inputs, one after the other and as they are. -/
def textsOf (inputs : List Input) : String := String.join (inputs.map (·.text))

/-- How the output of inputs is made from a run, and how that may fail. The functions to generate are those of the
catalog that are not left out; deciding this changes nothing else. The output comes out exactly if every rendering
succeeds or fails for a reason that concerns its function alone; then it has the texts of the inputs around what is
shown for each function. It fails exactly if rendering stops, with the failure at which it stops. -/
structure Surrounds (t : Target σ) (inputs : Inputs) (r : Run σ) : Prop where
  functions : r.session.generatable.2 =
    (Entries.names r.session.catalog.functions).filter fun name => !(r.session.leavesOut name).2
  decisions : ∃ decisions, r.decided = { r with session := { r.session with decisions := decisions } }
  ok_iff : ∀ text r', (t.generate inputs).run.run r = (.ok text, r') ↔
    ∃ results, results.map (·.1) = r.session.generatable.2 ∧ t.RendersEach r.decided results r' ∧
      text = textsOf inputs.preamble ++ String.join (results.map t.shown) ++ textsOf inputs.epilogue
  error_iff : ∀ e r', (t.generate inputs).run.run r = (.error e, r') ↔
    t.StopsAt r.decided r.session.generatable.2 e r'
  /-- To the run that the rendering of a function leaves, whatever it has recorded itself, one diagnostic is added if it
  failed, and none otherwise. -/
  adds : ∀ done function outcome rest r', t.RendersEach r.decided (done ++ (function, outcome) :: rest) r' →
    ∃ before left, t.RendersEach r.decided done before ∧ (t.render function).run.run before = (outcome, left) ∧
      t.RendersEach (left.diagnosing (Renderer.diagnosed? (function, outcome)).toList) rest r'
  diagnostics_of_quiet : t.Quiet → ∀ results r', t.RendersEach r.decided results r' →
    r'.session.diagnostics = r.session.diagnostics ++ results.filterMap Renderer.diagnosed?
  /-- The diagnostics are those of the failures, for every target that there is. -/
  diagnostics : ∀ files docFolder? name start, Generator.ofName? files docFolder? name = some ⟨σ, start, t⟩ →
    ∀ results r', t.RendersEach r.decided results r' →
      r'.session.diagnostics = r.session.diagnostics ++ results.filterMap Renderer.diagnosed?

theorem Plain.generate_eq_ok (h : t.Plain) {inputs : Inputs} {r r' : Run σ}
    {results : List (String × Except Error String)} (hfunctions : results.map (·.1) = r.session.generatable.2)
    (hresults : t.RendersEach r.decided results r') : (t.generate inputs).run.run r =
      (.ok (textsOf inputs.preamble ++ String.join (results.map t.shown) ++ textsOf inputs.epilogue), r') := by
  rw [h.run_generate, ← hfunctions, hresults.run_eq_ok]
  rfl

theorem Plain.generate_eq_error (h : t.Plain) {inputs : Inputs} {r r' : Run σ} {e : Error}
    (hstops : t.StopsAt r.decided r.session.generatable.2 e r') : (t.generate inputs).run.run r = (.error e, r') := by
  rw [h.run_generate, hstops.run_eq_error]

theorem Plain.surrounds (h : t.Plain) (inputs : Inputs) (r : Run σ) : t.Surrounds inputs r := by
  obtain ⟨decisions, hdecisions⟩ := r.session.keep_fst (Entries.names r.session.catalog.functions)
  have hdecided : r.decided = { r with session := { r.session with decisions := decisions } } :=
    congrArg (fun s => { r with session := s }) hdecisions
  have hends := t.rendersEach_or_stopsAt r.session.generatable.2 r.decided
  have hquiet : t.Quiet → ∀ results r', t.RendersEach r.decided results r' →
      r'.session.diagnostics = r.session.diagnostics ++ results.filterMap Renderer.diagnosed? := by
    intro hquiet results r' hresults
    rw [hresults.diagnostics hquiet, hdecided]
  refine ⟨r.session.keep_snd _, ⟨decisions, hdecided⟩, fun text r' => ⟨fun hrun => ?_, ?_⟩,
    fun e r' => ⟨fun hrun => ?_, h.generate_eq_error⟩, fun done function outcome rest r' hresults => ?_, hquiet,
    fun _ _ _ _ hg => hquiet (Generator.quiet_of_ofName? hg)⟩
  · rcases hends with ⟨results, r'', hfunctions, hresults⟩ | ⟨e, r'', hstops⟩
    · rw [h.generate_eq_ok hfunctions hresults] at hrun
      cases hrun
      exact ⟨results, hfunctions, hresults, rfl⟩
    · rw [h.generate_eq_error hstops] at hrun
      cases hrun
  · rintro ⟨results, hfunctions, hresults, rfl⟩
    exact h.generate_eq_ok hfunctions hresults
  · rcases hends with ⟨results, r'', hfunctions, hresults⟩ | ⟨e', r'', hstops⟩
    · rw [h.generate_eq_ok hfunctions hresults] at hrun
      cases hrun
    · rw [h.generate_eq_error hstops] at hrun
      cases hrun
      exact hstops
  · obtain ⟨before, hdone, hrest⟩ := Renderer.rendersEach_append_iff.mp hresults
    obtain ⟨left, hrender, -, hrest⟩ := Renderer.rendersEach_cons_iff.mp hrest
    exact ⟨before, left, hdone, hrender, hrest⟩

/-- A catalog of a function whose type is not known, of one that is left out, and of one that can be rendered. -/
def Plain.catalogMixed : Catalog where
  functions := [("f", { Function.new "f" true with attrs := [("PARAMS", .text "OUT X x")] }),
    ("g", { Function.new "g" true with ignoredBy := NameSet.empty.insert "RC" }), ("h", .new "h" true)]
  types := [("ERROR", .new "ERROR")]
  strict := true

/-- Between the inputs stand a comment for the first function and the text of the third. -/
theorem Plain.surrounds_glue :
    let r : Run Unit := ⟨.start catalogMixed "RC" .default, ()⟩
    let inputs : Inputs := ⟨[⟨"a.c", "/* a */\n"⟩], [⟨"b.c", "/* b */\n"⟩]⟩
    R.Glue.target.Plain ∧ R.Glue.target.Surrounds inputs r ∧
      ((R.Glue.target.generate inputs).run.run r).1 =
        .ok ("/* a */\n" ++ "/* ERROR: Unknown type 'X' in function 'f' */\n" ++
          "\n/*-------------------------------------------/\n/ h                                          /\n" ++
          "/-------------------------------------------*/\nSEXP R_h() \x7b\n" ++
          "                                        /* Declarations */\n  SEXP result;\n" ++
          "                                        /* Convert input */\n\n" ++
          "                                        /* Call igraph */\n  c_result=h();\n" ++
          "                                        /* Convert output */\n\n\n  UNPROTECT(1);\n  return(result);\n\x7d\n" ++
          "/* b */\n") ∧
      ((R.Glue.target.generate inputs).run.run r).2.session.diagnostics =
        [⟨"f", "Unknown type 'X' in function 'f'"⟩] := by
  intro r inputs
  have hplain : R.Glue.target.Plain := ⟨rfl, rfl, rfl, rfl⟩
  exact ⟨hplain, hplain.surrounds _ _, by decide +kernel, by decide +kernel⟩

end Target
end Bindery
