import Bindery.Proofs.Signature
import Bindery.Proofs.Target.Runs
import Bindery.Target.Named

/-! # A function is rendered for itself

Two runs that know the same of a function and of the types render it alike: the other functions, the configuration and
what the runs have decided and recorded do not come into it, nor does what has been rendered before
(`render_eq_of_reached`). The runs are followed side by side (`Gen.Twin`). Of the state of a target a rendering may use
only what every state that renderings lead to has. -/

namespace Bindery

/-! ### What a catalog says for one function -/

/-- Catalogs that say the same of a function and of all types. -/
structure Catalog.SameFor (name : String) (c₁ c₂ : Catalog) : Prop where
  function : c₁.function? name = c₂.function? name
  types : ∀ type, c₁.type? type = c₂.type? type

namespace Catalog
variable {name : String} {c₁ c₂ : Catalog}

theorem SameFor.refl (name : String) (c : Catalog) : SameFor name c c := ⟨rfl, fun _ => rfl⟩

theorem SameFor.requireFunction (h : SameFor name c₁ c₂) : c₁.requireFunction name = c₂.requireFunction name := by
  rw [Catalog.requireFunction, Catalog.requireFunction, h.function]

theorem SameFor.resolve (h : SameFor name c₁ c₂) : Signature.resolve c₁ name = Signature.resolve c₂ name := by
  rw [Signature.resolve, Signature.resolve, h.requireFunction]
  congr 1
  funext f
  rw [Signature.ofFunction, Signature.ofFunction, TypedParam.resolve_congr h.types, resolveType_congr h.types]

theorem SameFor.prototype (h : SameFor name c₁ c₂) (f : Function) :
    Target.Check.Prototype.render c₁.types f = Target.Check.Prototype.render c₂.types f := by
  have hargument : Target.Check.Prototype.argument c₁.types = Target.Check.Prototype.argument c₂.types := by
    funext function p
    rw [Target.Check.Prototype.argument, Target.Check.Prototype.argument, resolveType_congr h.types]
  rw [Target.Check.Prototype.render, Target.Check.Prototype.render, hargument, resolveType_congr h.types]

end Catalog

/-! ### Two runs side by side -/

namespace Gen
variable {σ α β : Type}

/-- Results that are alike: the same failure, or values that are related. -/
inductive Alike (Q : α → α → Prop) : Except Error α → Except Error α → Prop
  | ok {a b : α} (h : Q a b) : Alike Q (.ok a) (.ok b)
  | error (e : Error) : Alike Q (.error e) (.error e)

theorem Alike.eq {x y : Except Error α} (h : Alike Eq x y) : x = y := by
  cases h with
  | ok h => rw [h]
  | error e => rfl

/-- Computations that lead related runs to related runs, with results that are alike. -/
def Twin (R : Run σ → Run σ → Prop) (Q : α → α → Prop) (x y : Gen σ α) : Prop :=
  ∀ r₁ r₂, R r₁ r₂ → Alike Q (x.run.run r₁).1 (y.run.run r₂).1 ∧ R (x.run.run r₁).2 (y.run.run r₂).2

section
variable {R : Run σ → Run σ → Prop} {Q : α → α → Prop} {Q' : β → β → Prop} {x y : Gen σ α} {f g : α → Gen σ β}

theorem Twin.pure {a b : α} (h : Q a b) : Twin R Q (Pure.pure a) (Pure.pure b) := fun _ _ hr => ⟨.ok h, hr⟩

theorem Twin.bind (hx : Twin R Q x y) (hf : ∀ a b, Q a b → Twin R Q' (f a) (g b)) : Twin R Q' (x >>= f) (y >>= g) := by
  intro r₁ r₂ hr
  obtain ⟨hv, hr'⟩ := hx r₁ r₂ hr
  rw [run_bind, run_bind]
  rcases h₁ : x.run.run r₁ with ⟨v₁, r₁'⟩
  rcases h₂ : y.run.run r₂ with ⟨v₂, r₂'⟩
  rw [h₁, h₂] at hv hr'
  cases hv with
  | ok h => exact hf _ _ h r₁' r₂' hr'
  | error e => exact ⟨.error e, hr'⟩

theorem Twin.bind_eq (hx : Twin R Eq x y) (hf : ∀ a, Twin R Q' (f a) (g a)) : Twin R Q' (x >>= f) (y >>= g) :=
  hx.bind fun a _ h => h ▸ hf a

theorem Twin.ofExcept (v : Except Error α) : Twin R Eq (ofExcept v) (ofExcept v) := by
  intro r₁ r₂ hr
  rw [run_ofExcept, run_ofExcept]
  cases v with
  | ok a => exact ⟨.ok rfl, hr⟩
  | error e => exact ⟨.error e, hr⟩

end

/-- Runs that know the same of a function and of the types, and whose states have a property. -/
structure Agree (name : String) (S : σ → Prop) (r₁ r₂ : Run σ) : Prop where
  catalog : Catalog.SameFor name r₁.session.catalog r₂.session.catalog
  left : S r₁.state
  right : S r₂.state

section
variable {name : String} {S : σ → Prop} {Q : α → α → Prop}

theorem twin_catalog : Twin (Agree name S) (Catalog.SameFor name) catalog catalog :=
  fun _ _ hr => ⟨.ok hr.catalog, hr⟩

theorem twin_state : Twin (Agree name S) (fun a b => S a ∧ S b) state state :=
  fun _ _ hr => ⟨.ok ⟨hr.left, hr.right⟩, hr⟩

theorem twin_modifyState {f : σ → σ} (hf : ∀ s, S s → S (f s)) :
    Twin (Agree name S) Eq (modifyState f) (modifyState f) :=
  fun r₁ r₂ hr => ⟨.ok rfl, hr.catalog, hf r₁.state hr.left, hf r₂.state hr.right⟩

/-- What is done with the description of the function. -/
theorem twin_function {k : Catalog → Function → Gen σ α}
    (hk : ∀ c₁ c₂, Catalog.SameFor name c₁ c₂ → ∀ f, Twin (Agree name S) Q (k c₁ f) (k c₂ f)) :
    Twin (Agree name S) Q (catalog >>= fun c => ofExcept (c.requireFunction name) >>= k c)
      (catalog >>= fun c => ofExcept (c.requireFunction name) >>= k c) := by
  refine twin_catalog.bind fun c₁ c₂ hc => ?_
  rw [hc.requireFunction]
  exact (Twin.ofExcept _).bind_eq fun f => hk c₁ c₂ hc f

/-- What is done with the signature of the function. -/
theorem twin_signature {k : Signature → Gen σ α} (hk : ∀ s, Twin (Agree name S) Q (k s) (k s)) :
    Twin (Agree name S) Q (catalog >>= fun c => ofExcept (Signature.resolve c name) >>= k)
      (catalog >>= fun c => ofExcept (Signature.resolve c name) >>= k) := by
  refine twin_catalog.bind fun c₁ c₂ hc => ?_
  rw [hc.resolve]
  exact (Twin.ofExcept _).bind_eq hk

end
end Gen

/-! ### Targets -/

open Gen (Any Twin Agree)

/-- Runs that know the same of a function render it alike, whatever states with a property they are in. -/
def Renderer.Independent {σ : Type} (S : σ → Prop) (r : Renderer σ) : Prop :=
  ∀ name, Twin (Agree name S) Eq (r.render name) (r.render name)

namespace Target

/-- Without a folder of documentation there is no state that could change. -/
theorem independent_rWrapper (files : Files) : (R.Wrapper.target files).Independent (· = none) := by
  intro name
  have hdocs : Twin (Agree name (· = none)) Eq (R.Wrapper.documentation files name)
      (R.Wrapper.documentation files name) := by
    refine Gen.twin_state.bind ?_
    rintro _ _ ⟨rfl, rfl⟩
    exact .pure rfl
  refine Gen.twin_signature fun s => hdocs.bind_eq fun docs => ?_
  exact (Twin.ofExcept (R.Wrapper.render s)).bind_eq fun text => .pure rfl

theorem independent_rGlue : R.Glue.target.Independent Any := fun _ => Gen.twin_signature fun _ => .ofExcept _

theorem independent_rNamespace : R.Namespace.target.Independent Any := fun _ =>
  Gen.twin_function fun _ _ _ _ => .pure rfl

theorem independent_javaClass : Java.Class.target.Independent Any := fun _ => Gen.twin_signature fun _ => .ofExcept _

theorem independent_javaGlue : Java.Glue.target.Independent Any := fun _ => Gen.twin_signature fun _ => .ofExcept _

theorem independent_pythonLibrary : Python.Library.target.Independent Any := by
  intro name
  refine Gen.twin_signature fun s => (Twin.ofExcept (Python.Library.render s)).bind_eq fun rendered => ?_
  -- The aliases are only added to; the text has been made before.
  exact (Gen.twin_modifyState fun _ _ => trivial).bind_eq fun _ => .pure rfl

theorem independent_pythonWrapper : Python.Wrapper.target.Independent Any := fun _ =>
  Gen.twin_signature fun _ => .ofExcept _

theorem independent_shellProgram : Shell.Program.target.Independent Any := fun _ =>
  Gen.twin_signature fun _ => .ofExcept _

theorem independent_shellLinks : Shell.Links.target.Independent Any := fun _ => .pure rfl

theorem independent_typeUse : Check.TypeUse.target.Independent Any := by
  intro name
  refine Gen.twin_function fun _ _ _ f => (Twin.ofExcept (Check.TypeUse.uses f)).bind_eq fun used => ?_
  exact (Gen.twin_modifyState fun _ _ => trivial).bind_eq fun _ => .pure rfl

theorem independent_prototype : Check.Prototype.target.Independent Any := by
  intro name
  refine Gen.twin_function fun _ _ hsame f => ?_
  rw [hsame.prototype f]
  refine (Twin.ofExcept _).bind_eq fun text => ?_
  exact (Gen.twin_modifyState fun _ _ => trivial).bind_eq fun _ => .pure rfl

end Target

/-! ### States that renderings lead to -/

namespace Generator
variable {g : Generator} {S : g.State → Prop}

/-- The state in which the target begins, and those in which renderings end, also renderings that fail. -/
inductive Reached (g : Generator) : g.State → Prop
  | start : Reached g g.start
  | render {state : g.State} (h : Reached g state) (session : Session) (name : String) :
      Reached g ((g.target.render name).run.run ⟨session, state⟩).2.state

theorem Reached.of_independent (hindependent : g.target.Independent S) (hstart : S g.start) {state : g.State}
    (h : Reached g state) : S state := by
  induction h with
  | start => exact hstart
  | render h session name ih =>
    -- Beside itself a rendering leads to states that both have the property.
    have hagree : Agree name S ⟨session, _⟩ ⟨session, _⟩ := ⟨.refl name session.catalog, ih, ih⟩
    exact (hindependent name _ _ hagree).2.left

/-- Without documentation every target is independent in states that the one in which it begins is among. -/
theorem exists_independent {files : Files} {target : String} (hg : ofName? files none target = some g) :
    ∃ S : g.State → Prop, S g.start ∧ g.target.Independent S := by
  unfold ofName? at hg
  split at hg <;> cases hg
  · exact ⟨(· = none), rfl, Target.independent_rWrapper files⟩
  · exact ⟨Any, trivial, Target.independent_rGlue⟩
  · exact ⟨Any, trivial, Target.independent_rNamespace⟩
  · exact ⟨Any, trivial, Target.independent_javaClass⟩
  · exact ⟨Any, trivial, Target.independent_javaGlue⟩
  · exact ⟨Any, trivial, Target.independent_pythonLibrary⟩
  · exact ⟨Any, trivial, Target.independent_pythonWrapper⟩
  · exact ⟨Any, trivial, Target.independent_shellProgram⟩
  · exact ⟨Any, trivial, Target.independent_shellLinks⟩
  · exact ⟨Any, trivial, Target.independent_typeUse⟩
  · exact ⟨Any, trivial, Target.independent_prototype⟩

/-- Two sessions that know the same of a function and of the types render it to the same text or fail alike, whatever
has been rendered before. -/
theorem render_eq_of_reached {files : Files} {target : String} (hg : ofName? files none target = some g) {name : String}
    {s₁ s₂ : Session} (hsame : Catalog.SameFor name s₁.catalog s₂.catalog) {state₁ state₂ : g.State}
    (h₁ : g.Reached state₁) (h₂ : g.Reached state₂) :
    ((g.target.render name).run.run ⟨s₁, state₁⟩).1 = ((g.target.render name).run.run ⟨s₂, state₂⟩).1 := by
  obtain ⟨S, hstart, hindependent⟩ := exists_independent hg
  have hagree : Agree name S ⟨s₁, state₁⟩ ⟨s₂, state₂⟩ :=
    ⟨hsame, h₁.of_independent hindependent hstart, h₂.of_independent hindependent hstart⟩
  exact (hindependent name _ _ hagree).1.eq

/-- A session of these functions, each with an enumeration for its parameter and its result. -/
def sessionOf (functions : List String) (config : Config) : Session :=
  .start ⟨functions.map fun name => (name, ⟨name, [("PARAMS", .text "MODE m")], "MODE", .empty, .empty, true⟩),
    [("MODE", ⟨"MODE", [("CTYPE", .text "mode_t")], NameSet.empty.insert "enum"⟩)], true⟩ "PythonCTypes" config

/-- The rendering of `f` after that of `g`, which has left an alias behind, is that of `f` on its own. -/
theorem render_eq_of_reached_later :
    ∃ state,
      ((Target.Python.Library.target.render "g").run.run ⟨sessionOf ["g", "f"] .default, .empty⟩).2.state = state ∧
      state ≠ .empty ∧
      ((Target.Python.Library.target.render "f").run.run ⟨sessionOf ["g", "f"] .default, state⟩).1 =
        .ok "\nf = _lib.f\nf.restype = mode_t\nf.argtypes = [mode_t]\n" := by
  have hg : ofName? .empty none "PythonCTypes" =
      some ⟨Target.Python.Library.Aliases, .empty, Target.Python.Library.target⟩ := rfl
  have hsame : Catalog.SameFor "f" (sessionOf ["g", "f"] .default).catalog
      (sessionOf ["f"] ⟨false, true, "BLOCK", ""⟩).catalog := ⟨by decide, fun _ => rfl⟩
  have halone : ((Target.Python.Library.target.render "f").run.run
      ⟨sessionOf ["f"] ⟨false, true, "BLOCK", ""⟩, .empty⟩).1 =
        .ok "\nf = _lib.f\nf.restype = mode_t\nf.argtypes = [mode_t]\n" := by decide +kernel
  refine ⟨_, rfl, by decide +kernel, ?_⟩
  exact (render_eq_of_reached hg hsame (.render .start _ "g") .start).trans halone

end Generator
end Bindery
