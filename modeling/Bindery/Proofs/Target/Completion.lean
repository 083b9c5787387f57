import Bindery.Proofs.Entries
import Bindery.Proofs.Target.Renders
import Bindery.Proofs.Target.Runs
import Bindery.Target.Named

/-! # A validated catalog never stops a run

With a catalog of which every function has its parameters and their order, and without documentation, every target
that writes its inputs around the functions generates an output, for every configuration and all inputs. The target
that fills blocks does so unless its sigil is blank or a marker names another block than that of all functions
(`generate_of_validate`). Sessions of the catalog keep known functions only (`Session.Of`), and rendering a known
function fails only for a reason that concerns it alone. -/

namespace Bindery
open Gen (Keeps Any Never OfFunction)

/-! ### Sessions of a catalog -/

/-- A session of a catalog and a configuration that leaves out what the catalog does not know. -/
structure Session.Of (c : Catalog) (config : Config) (s : Session) : Prop where
  catalog : s.catalog = c
  config : s.config = config
  decisions : ∀ name, Entries.get? s.decisions name = some false → name ∈ Entries.names c.functions

namespace Session
variable {c : Catalog} {config : Config} {s : Session}

theorem of_start (c : Catalog) (target : String) (config : Config) : Of c config (start c target config) :=
  ⟨rfl, rfl, fun _ h => nomatch h⟩

theorem Of.record (h : Of c config s) (function : String) (e : Error) : Of c config (s.record function e) :=
  ⟨h.catalog, h.config, h.decisions⟩

theorem Of.leavesOutNow (h : Of c config s) {name : String} (hkeep : s.leavesOutNow name = false) :
    name ∈ Entries.names c.functions := by
  rw [Session.leavesOutNow, h.catalog] at hkeep
  split at hkeep
  · rename_i f hf
    exact Entries.has_iff.mp (by rw [Entries.has, ← Catalog.function?, hf]; rfl)
  · cases hkeep

theorem Of.leavesOut (h : Of c config s) (name : String) :
    Of c config (s.leavesOut name).1 ∧ ((s.leavesOut name).2 = false → name ∈ Entries.names c.functions) := by
  unfold Session.leavesOut
  split
  · rename_i decision hdecision
    exact ⟨h, fun hkeep => h.decisions name (hkeep ▸ hdecision)⟩
  · refine ⟨⟨h.catalog, h.config, fun other hother => ?_⟩, h.leavesOutNow⟩
    rw [Entries.get?_set] at hother
    split at hother
    · rename_i heq
      exact heq ▸ h.leavesOutNow (Option.some.inj hother)
    · exact h.decisions other hother

theorem Of.keep (h : Of c config s) (names : List String) :
    Of c config (s.keep names).1 ∧ ∀ name ∈ (s.keep names).2, name ∈ Entries.names c.functions := by
  induction names generalizing s with
  | nil => exact ⟨h, fun _ hname => nomatch hname⟩
  | cons name rest ih =>
    rw [Session.keep]
    obtain ⟨hs, hkept⟩ := h.leavesOut name
    rcases hdecided : s.leavesOut name with ⟨s', _ | _⟩ <;> rw [hdecided] at hs hkept
    · obtain ⟨hs', hrest⟩ := ih hs
      exact ⟨hs', List.forall_mem_cons.mpr ⟨hkept rfl, hrest⟩⟩
    · exact ih hs

end Session

/-! ### Runs of a catalog -/

/-- A run of a catalog and a configuration whose state has a property. -/
structure Ready {σ : Type} (c : Catalog) (config : Config) (S : σ → Prop) (r : Run σ) : Prop where
  session : r.session.Of c config
  state : S r.state

section
variable {σ α : Type} {c : Catalog} {config : Config} {S : σ → Prop} {E : Error → Prop} {Q : α → Prop}

theorem Ready.record (r : Run σ) (function : String) (e : Error) (h : Ready c config S r) :
    Ready c config S { r with session := r.session.record function e } :=
  ⟨h.session.record function e, h.state⟩

theorem keeps_session : Keeps (Ready c config S) E (fun s => s.config = config) Gen.session :=
  fun _ hr => ⟨hr, hr.session.config⟩

theorem keeps_catalog : Keeps (Ready c config S) E (· = c) Gen.catalog := fun _ hr => ⟨hr, hr.session.catalog⟩

theorem keeps_state : Keeps (Ready c config S) E S Gen.state := fun _ hr => ⟨hr, hr.state⟩

theorem keeps_generatable :
    Keeps (Ready c config S) E (fun names => ∀ name ∈ names, name ∈ Entries.names c.functions) Gen.generatable := by
  intro r hr
  obtain ⟨hs, hnames⟩ := hr.session.keep (Entries.names r.session.catalog.functions)
  exact ⟨⟨hs, hr.state⟩, hnames⟩

theorem keeps_modifyState {f : σ → σ} (hf : ∀ s, S s → S (f s)) : Keeps (Ready c config S) E Any (Gen.modifyState f) :=
  fun r hr => ⟨⟨hr.session, hf r.state hr.state⟩, trivial⟩

/-- What is done with the signature of a known function. -/
theorem keeps_signature (hc : c.validate = .ok ()) {name : String} (hname : name ∈ Entries.names c.functions)
    {f : Signature → Gen σ α} (hf : ∀ s, Keeps (Ready c config S) OfFunction Q (f s)) :
    Keeps (Ready c config S) OfFunction Q (Gen.catalog >>= fun c => Gen.ofExcept (Signature.resolve c name) >>= f) := by
  refine keeps_catalog.bind ?_
  rintro _ rfl
  exact (Keeps.ofExcept (Signature.resolve_perFunction hc hname)).bind fun s _ => hf s

/-- What is done with a known function. -/
theorem keeps_function {name : String} (hname : name ∈ Entries.names c.functions) {f : Catalog → Function → Gen σ α}
    (hf : ∀ x, c.function? name = some x → Keeps (Ready c config S) OfFunction Q (f c x)) :
    Keeps (Ready c config S) OfFunction Q (Gen.catalog >>= fun c => Gen.ofExcept (c.requireFunction name) >>= f c) := by
  obtain ⟨x, hx, hrequire⟩ := Catalog.exists_requireFunction hname
  refine keeps_catalog.bind ?_
  rintro _ rfl
  rw [hrequire]
  exact hf x hx

theorem keeps_renderAll {R : Renderer σ}
    (hrender : ∀ name ∈ Entries.names c.functions, Keeps (Ready c config S) OfFunction Any (R.render name)) :
    Keeps (Ready c config S) Never Any R.renderAll :=
  keeps_generatable.bind fun _ hnames =>
    Renderer.keeps_renderEach Ready.record fun name hname => hrender name (hnames name hname)

theorem keeps_composeSingle {P : Run σ → Prop} {t : Target σ} (hpreamble : ∀ inputs, Keeps P E Any (t.preamble inputs))
    (hfunctions : Keeps P E Any t.functions) (hepilogue : ∀ inputs, Keeps P E Any (t.epilogue inputs))
    (inputs : Inputs) : Keeps P E Any (t.composeSingle inputs) :=
  (hpreamble _).bind fun _ _ => hfunctions.bind fun _ _ => (hepilogue _).bind fun _ _ => .pure trivial

end

/-! ### Targets that write their inputs around the functions -/

/-- A target that completes its output for a catalog, from runs whose state has a property. -/
structure Target.Completes {σ : Type} (c : Catalog) (config : Config) (S : σ → Prop) (t : Target σ) : Prop where
  render : ∀ name ∈ Entries.names c.functions, Keeps (Ready c config S) OfFunction Any (t.render name)
  compose : ∀ inputs, Keeps (Ready c config S) Never Any (t.composeSingle inputs)

section
variable {σ : Type} {c : Catalog} {config : Config} {S : σ → Prop} {t : Target σ}

/-- A target all of whose parts are the usual ones. -/
theorem Target.Completes.of_render
    (hrender : ∀ name ∈ Entries.names c.functions, Keeps (Ready c config S) OfFunction Any (t.render name))
    (hpreamble : t.preamble = fun inputs => pure (verbatim inputs)) (hfunctions : t.functions = t.renderAll)
    (hepilogue : t.epilogue = fun inputs => pure (verbatim inputs)) : Target.Completes c config S t := by
  refine ⟨hrender, keeps_composeSingle ?_ ?_ ?_⟩
  · exact fun _ => hpreamble ▸ .pure trivial
  · exact hfunctions ▸ keeps_renderAll hrender
  · exact fun _ => hepilogue ▸ .pure trivial

end

section
variable {c : Catalog} (config : Config)

theorem completes_rNamespace : Target.Completes c config Any Target.R.Namespace.target :=
  .of_render (fun _ hname => keeps_function hname fun _ _ => .pure trivial) rfl rfl rfl

theorem completes_shellLinks : Target.Completes c config Any Target.Shell.Links.target :=
  .of_render (fun _ _ => .pure trivial) rfl rfl rfl

variable (hc : c.validate = .ok ())
include hc

/-- Without a folder of documentation none is read. -/
theorem completes_rWrapper (files : Files) : Target.Completes c config (· = none) (Target.R.Wrapper.target files) := by
  have hdocs : ∀ name, Keeps (Ready c config (· = none)) OfFunction Any (Target.R.Wrapper.documentation files name) := by
    intro name
    refine keeps_state.bind ?_
    rintro _ rfl
    exact .pure trivial
  refine .of_render (fun name hname => ?_) rfl rfl rfl
  exact keeps_signature hc hname fun s => (hdocs name).bind fun _ _ =>
    (Keeps.ofExcept (Target.R.Wrapper.render_perFunction s)).bind fun _ _ => .pure trivial

theorem completes_rGlue : Target.Completes c config Any Target.R.Glue.target :=
  .of_render (fun _ hname => keeps_signature hc hname fun s => .ofExcept (Target.R.Glue.render_perFunction s)) rfl rfl rfl

theorem completes_javaGlue : Target.Completes c config Any Target.Java.Glue.target :=
  .of_render (fun _ hname => keeps_signature hc hname fun s => .ofExcept (Target.Java.Glue.render_perFunction s))
    rfl rfl rfl

theorem completes_pythonLibrary : Target.Completes c config Any Target.Python.Library.target := by
  have hrender : ∀ name ∈ Entries.names c.functions,
      Keeps (Ready c config Any) OfFunction Any (Target.Python.Library.renderer.render name) := fun name hname =>
    keeps_signature hc hname fun s => (Keeps.ofExcept (Target.Python.Library.render_perFunction s)).bind fun _ _ =>
      (keeps_modifyState fun _ _ => trivial).bind fun _ _ => .pure trivial
  refine ⟨hrender, keeps_composeSingle (fun _ => .pure trivial) ?_ fun _ => .pure trivial⟩
  exact (keeps_renderAll hrender).bind fun _ _ => keeps_state.bind fun _ _ => .pure trivial

theorem completes_pythonWrapper : Target.Completes c config Any Target.Python.Wrapper.target :=
  .of_render (fun _ hname => keeps_signature hc hname fun s => .ofExcept (Target.Python.Wrapper.render_perFunction s))
    rfl rfl rfl

theorem completes_shellProgram : Target.Completes c config Any Target.Shell.Program.target := by
  have hrender : ∀ name ∈ Entries.names c.functions,
      Keeps (Ready c config Any) OfFunction Any (Target.Shell.Program.renderer.render name) := fun name hname =>
    keeps_signature hc hname fun s => .ofExcept (Target.Shell.Program.render_perFunction s)
  refine ⟨hrender, keeps_composeSingle (fun _ => .pure trivial) ?_ fun _ => .pure trivial⟩
  refine keeps_generatable.bind fun names hnames => ?_
  exact (Renderer.keeps_renderEach Ready.record fun name hname => hrender name (hnames name hname)).bind fun _ _ =>
    .pure trivial

/-- The types of a function are counted from its parameters, which have been derived. -/
theorem completes_typeUse : Target.Completes c config Any Target.Check.TypeUse.target := by
  have hrender : ∀ name ∈ Entries.names c.functions,
      Keeps (Ready c config Any) OfFunction Any (Target.Check.TypeUse.renderer.render name) := by
    intro name hname
    refine keeps_function hname fun f hf => ?_
    obtain ⟨table, hparams⟩ := Catalog.exists_params_of_validate hc hf
    exact (Keeps.ofExcept ((PerFunction.of_eq_ok hparams).map _)).bind fun _ _ =>
      (keeps_modifyState fun _ _ => trivial).bind fun _ _ => .pure trivial
  refine ⟨hrender, keeps_composeSingle (fun _ => .pure trivial) ?_ fun _ => .pure trivial⟩
  exact (keeps_renderAll hrender).bind fun _ _ => keeps_state.bind fun _ _ => .pure trivial

/-- The checks after the prototypes fill the only hole of their skeleton. -/
theorem completes_prototype : Target.Completes c config Any Target.Check.Prototype.target := by
  have hrender : ∀ name ∈ Entries.names c.functions,
      Keeps (Ready c config Any) OfFunction Any (Target.Check.Prototype.target.render name) := by
    intro name hname
    refine keeps_function hname fun f hf => ?_
    obtain ⟨table, hparams⟩ := Catalog.exists_params_of_validate hc hf
    exact (Keeps.ofExcept (Target.Check.Prototype.render_perFunction hparams)).bind fun _ _ =>
      (keeps_modifyState fun _ _ => trivial).bind fun _ _ => .pure trivial
  refine ⟨hrender, keeps_composeSingle (fun _ => .pure trivial) (keeps_renderAll hrender) fun inputs => ?_⟩
  refine keeps_session.bind fun session _ => keeps_state.bind fun names _ => ?_
  refine Keeps.bind (Keeps.ofExcept fun e he => ?_) fun _ _ => .pure trivial
  obtain ⟨text, htext⟩ := Target.Check.Prototype.exists_fill_eq_ok
    (indentLines session.config.indent (Target.Check.Prototype.checks names))
  rw [htext] at he
  cases he

end

/-! ### The target that fills blocks -/

section
variable {σ : Type} {P : Run σ → Prop} {E : Error → Prop} {C : BlockCache → Prop}

theorem keeps_getOrRender {b : BlockName} {render : Gen σ String} {cache : BlockCache} (hcache : C cache)
    (hset : ∀ text, C ⟨Entries.set cache.texts b.text text⟩) (hrender : Keeps P E Any render) :
    Keeps P E (fun p => C p.2) (cache.getOrRender b render) := by
  unfold BlockCache.getOrRender
  split
  · exact .pure hcache
  · exact hrender.bind fun text _ => .pure (hset text)

theorem keeps_fillLines {t : Target σ} {m : Marker} {lines : List String}
    (hblock : ∀ line ∈ lines, ∀ b, m.block? line = some b → Keeps P E Any (t.block b)) (cache : BlockCache) :
    Keeps P E Any (t.fillLines m cache lines) := by
  induction lines generalizing cache with
  | nil => exact .pure trivial
  | cons line rest ih =>
    rw [List.forall_mem_cons] at hblock
    rw [Target.fillLines]
    split
    · exact (ih hblock.2 cache).bind fun _ _ => .pure trivial
    · rename_i b hb
      refine (keeps_getOrRender (C := fun _ => True) trivial (fun _ => trivial) (hblock.1 b hb)).bind fun p _ => ?_
      exact (ih hblock.2 p.2).bind fun _ _ => .pure trivial

end

namespace Target.Java.Class
variable {c : Catalog} {config : Config}

/-- A block of another name is a failure. -/
theorem keeps_block_ne {P : Run Unit → Prop} {b : BlockName} (h : b ≠ .functions) :
    Keeps P Any (fun _ => False) (target.block b) := by
  have hhandler : blocks.handler b = .error (.unhandledBlock b.text) := by
    have hne : BlockName.functions.text ≠ b.text := fun heq => h (by cases b; cases heq; rfl)
    have hnone : Entries.get? blocks.handlers b.text = none := by
      rw [Entries.get?_eq_none_iff]
      exact fun hmem => hne (List.mem_singleton.mp hmem).symm
    rw [Registry.handler, hnone]
  intro r hr
  show Gen.Ends P Any (fun _ => False) ((Gen.ofExcept (blocks.handler b) >>= id).run.run r)
  rw [hhandler]
  exact ⟨hr, trivial⟩

/-- No block but that of all functions has been rendered. -/
def FunctionsOnly (cache : BlockCache) : Prop := ∀ name ∈ Entries.names cache.texts, name = BlockName.functions.text

theorem functionsOnly_empty : FunctionsOnly .empty := fun _ h => absurd h List.not_mem_nil

/-- A run that comes to a marker of another block does not complete; only the block of all functions has been
rendered by then. -/
theorem keeps_fillLines_ne {m : Marker} {lines : List String} {line : String} {b : BlockName} (hline : line ∈ lines)
    (hb : m.block? line = some b) (hne : b ≠ .functions) {cache : BlockCache}
    (hcache : FunctionsOnly cache) : Keeps Any Any (fun _ => False) (target.fillLines m cache lines) := by
  induction lines generalizing cache with
  | nil => cases hline
  | cons first rest ih =>
    rw [Target.fillLines]
    split
    · rename_i hfirst
      have hrest : line ∈ rest := by
        rcases List.mem_cons.mp hline with rfl | hrest
        · rw [hfirst] at hb
          cases hb
        · exact hrest
      exact (ih hrest hcache).bind fun _ h => h.elim
    · rename_i b' hfirst
      by_cases hb' : b' = .functions
      · have hrest : line ∈ rest := by
          rcases List.mem_cons.mp hline with rfl | hrest
          · rw [hfirst] at hb
            exact absurd (Option.some.inj hb ▸ hb') hne
          · exact hrest
        have hset : ∀ text, FunctionsOnly ⟨Entries.set cache.texts b'.text text⟩ := by
          intro text name hname
          rcases Entries.mem_names_set.mp hname with rfl | hname
          · rw [hb']
          · exact hcache name hname
        exact (keeps_getOrRender (C := FunctionsOnly) hcache hset (.any _)).bind fun _ hp => (ih hrest hp).bind fun _ h => h.elim
      · have hnone : Entries.get? cache.texts b'.text = none := by
          rw [Entries.get?_eq_none_iff]
          exact fun hmem => hb' (by cases b'; cases hcache _ hmem; rfl)
        have hfails : Keeps Any Any (fun _ => False) (cache.getOrRender b' (target.block b')) := by
          rw [BlockCache.getOrRender, hnone]
          exact (keeps_block_ne hb').bind fun _ h => h.elim
        exact hfails.bind fun _ h => h.elim

theorem keeps_render (hc : c.validate = .ok ()) :
    ∀ name ∈ Entries.names c.functions, Keeps (Ready c config Any) OfFunction Any (target.render name) :=
  fun _ hname => keeps_signature hc hname fun s => .ofExcept (render_perFunction s)

end Target.Java.Class

/-! ### Generators -/

/-- The lines of inputs. -/
def Inputs.lines (inputs : Inputs) : List String := inputs.all.flatMap fun input => Text.lines input.text

theorem Target.run_composeBlocks {σ : Type} {t : Target σ} (inputs : Inputs) (r : Run σ) :
    (t.composeBlocks inputs).run.run r =
      match Marker.ofSigil r.session.config.sigil with
      | .ok m => (t.fillLines m .empty inputs.lines).run.run r
      | .error e => (.error e, r) := by
  show (Gen.session >>= fun s => Gen.ofExcept (Marker.ofSigil s.config.sigil) >>= fun m =>
    t.fillLines m .empty inputs.lines).run.run r = _
  rw [Gen.run_bind]
  show (Gen.ofExcept (Marker.ofSigil r.session.config.sigil) >>= fun m =>
    t.fillLines m .empty inputs.lines).run.run r = _
  rw [Gen.run_bind, Gen.run_ofExcept]
  cases Marker.ofSigil r.session.config.sigil <;> rfl

theorem Generator.exists_generate_iff {g : Generator} {session : Session} {inputs : Inputs} :
    (∃ text s, g.generate session inputs = (.ok text, s)) ↔
      ∃ text, ((g.target.generate inputs).run.run ⟨session, g.start⟩).1 = .ok text := by
  constructor
  · rintro ⟨text, s, h⟩
    exact ⟨text, congrArg Prod.fst h⟩
  · rintro ⟨text, h⟩
    exact ⟨text, _, Prod.ext h rfl⟩

variable {c : Catalog} {config : Config}

theorem Target.Java.Class.exists_generate_iff (hc : c.validate = .ok ()) (inputs : Inputs) :
    (∃ text s, (Generator.stateless target).generate (.start c target.name config) inputs = (.ok text, s)) ↔
      Text.isBlankText config.sigil = false ∧
        ∀ line ∈ inputs.lines, ∀ b, Marker.block? ⟨config.sigil⟩ line = some b → b = .functions := by
  rw [Generator.exists_generate_iff]
  show (∃ text, ((target.composeBlocks inputs).run.run ⟨.start c target.name config, ()⟩).1 = .ok text) ↔ _
  have hready : Ready c config Any (⟨.start c target.name config, ()⟩ : Run Unit) :=
    ⟨Session.of_start c target.name config, trivial⟩
  rw [Target.run_composeBlocks, Marker.ofSigil, hready.session.config]
  cases hsigil : Text.isBlankText config.sigil with
  | true =>
    refine iff_of_false ?_ ?_
    · rintro ⟨text, h⟩
      cases h
    · rintro ⟨h, -⟩
      cases h
  | false =>
    by_cases hmarkers : ∀ line ∈ inputs.lines, ∀ b, Marker.block? ⟨config.sigil⟩ line = some b → b = .functions
    · refine iff_of_true ?_ ⟨rfl, hmarkers⟩
      refine (keeps_fillLines (E := Never) (fun line hline b hb => ?_) .empty _ hready).exists_ok
      rw [hmarkers line hline b hb]
      exact keeps_renderAll (keeps_render hc)
    · refine iff_of_false ?_ fun h => hmarkers h.2
      have hother : ∃ line ∈ inputs.lines, ∃ b, Marker.block? ⟨config.sigil⟩ line = some b ∧ b ≠ .functions := by
        simpa using hmarkers
      obtain ⟨line, hline, b, hb, hne⟩ := hother
      exact (keeps_fillLines_ne hline hb hne functionsOnly_empty _ trivial).not_exists_ok

/-- What the generator of a name does for a catalog and a configuration. Functions are rendered with a comment and a
diagnostic for every failure. The output is completed, by the target that fills blocks unless its sigil is blank or a
marker names another block. -/
structure Generator.Completes (g : Generator) (c : Catalog) (config : Config) (name : String) : Prop where
  renders : ∀ functions : List String, (∀ function ∈ functions, function ∈ Entries.names c.functions) →
    ∃ text r, (g.target.renderEach functions).run.run ⟨.start c g.target.name config, g.start⟩ = (.ok text, r) ∧
      Renderer.Rendered g.target.toRenderer ⟨.start c g.target.name config, g.start⟩ functions text r
  single : name ≠ "JavaJava" → ∀ inputs, ∃ text s, g.generate (.start c g.target.name config) inputs = (.ok text, s)
  blocks : name = "JavaJava" → ∀ inputs,
    (∃ text s, g.generate (.start c g.target.name config) inputs = (.ok text, s)) ↔
      Text.isBlankText config.sigil = false ∧
        ∀ line ∈ inputs.lines, ∀ b, Marker.block? ⟨config.sigil⟩ line = some b → b = .functions

section
variable {g : Generator} {S : g.State → Prop}

theorem Generator.exists_rendered (hstart : S g.start)
    (hrender : ∀ name ∈ Entries.names c.functions, Keeps (Ready c config S) OfFunction Any (g.target.render name))
    {functions : List String} (hfunctions : ∀ function ∈ functions, function ∈ Entries.names c.functions) :
    ∃ text r, (g.target.renderEach functions).run.run ⟨.start c g.target.name config, g.start⟩ = (.ok text, r) ∧
      Renderer.Rendered g.target.toRenderer ⟨.start c g.target.name config, g.start⟩ functions text r := by
  have hready : Ready c config S ⟨.start c g.target.name config, g.start⟩ := ⟨Session.of_start .., hstart⟩
  obtain ⟨text, r, heach, hrendered, -⟩ :=
    Renderer.rendered_of_keeps Ready.record (fun name hname => hrender name (hfunctions name hname)) hready
  exact ⟨text, r, heach, hrendered⟩

theorem Target.Completes.generator (h : Target.Completes c config S g.target) (hstart : S g.start)
    (hsingle : g.target.composition = .single) {name : String} (hname : name ≠ "JavaJava") :
    g.Completes c config name where
  renders _ hfunctions := Generator.exists_rendered hstart h.render hfunctions
  single _ inputs := by
    have hready : Ready c config S ⟨.start c g.target.name config, g.start⟩ := ⟨Session.of_start .., hstart⟩
    rw [Generator.exists_generate_iff, Target.generate, hsingle]
    exact (h.compose inputs _ hready).exists_ok
  blocks heq := absurd heq hname

end

/-- With a validated catalog and without documentation every target completes its output, for every configuration
and all inputs. -/
theorem generate_of_validate {files : Files} {c : Catalog} {name : String} {g : Generator} (hc : c.validate = .ok ())
    (hg : Generator.ofName? files none name = some g) (config : Config) : g.Completes c config name := by
  unfold Generator.ofName? at hg
  split at hg <;> cases hg
  · exact Target.Completes.generator (S := (· = none)) (completes_rWrapper config hc files) rfl rfl (by decide)
  · exact (completes_rGlue config hc).generator trivial rfl (by decide)
  · exact (completes_rNamespace config).generator trivial rfl (by decide)
  · exact {
      renders := fun _ => Generator.exists_rendered (S := Any) trivial (Target.Java.Class.keeps_render hc)
      single := fun h => absurd rfl h
      blocks := fun _ => Target.Java.Class.exists_generate_iff hc }
  · exact (completes_javaGlue config hc).generator trivial rfl (by decide)
  · exact (completes_pythonLibrary config hc).generator trivial rfl (by decide)
  · exact (completes_pythonWrapper config hc).generator trivial rfl (by decide)
  · exact (completes_shellProgram config hc).generator trivial rfl (by decide)
  · exact (completes_shellLinks config).generator trivial rfl (by decide)
  · exact (completes_typeUse config hc).generator trivial rfl (by decide)
  · exact (completes_prototype config hc).generator trivial rfl (by decide)

/-- The only parameter of the only function has a type that is not known. -/
def Catalog.unknownType : Catalog :=
  ⟨[("f", { Function.new "f" true with attrs := [("PARAMS", .text "OUT X x")] })], [], true⟩

/-- The function becomes a comment between the inputs, and it is recorded. -/
theorem generate_of_validate_unknown_type :
    let g := Generator.stateless Target.R.Glue.target
    let inputs : Inputs := ⟨[⟨"a.c", "/* a */\n"⟩], [⟨"b.c", "/* b */\n"⟩]⟩
    Catalog.unknownType.validate = .ok () ∧ g.Completes .unknownType .default "RC" ∧
      (g.generate (.start .unknownType "RC" .default) inputs).1 =
        .ok "/* a */\n/* ERROR: Unknown type 'X' in function 'f' */\n/* b */\n" ∧
      (g.generate (.start .unknownType "RC" .default) inputs).2.diagnostics =
        [⟨"f", "Unknown type 'X' in function 'f'"⟩] := by
  intro g inputs
  have hc : Catalog.unknownType.validate = .ok () := by decide +kernel
  have hg : Generator.ofName? .empty none "RC" = some g := rfl
  exact ⟨hc, generate_of_validate hc hg .default, by decide +kernel, by decide +kernel⟩

end Bindery
