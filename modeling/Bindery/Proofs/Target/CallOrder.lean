import Bindery.Proofs.Function.Coherence
import Bindery.Proofs.Signature
import Bindery.Proofs.Target.Written
import Bindery.Target.Named

/-! # Calls in the order of declaration

`PARAM_ORDER` arranges what a generated signature takes and what a result lists. The calls of the library and all that
goes with them by position keep to the order of declaration: whatever the order says, the arguments are the same
(`CallSite.same_arguments`). Every place where parameters go by position is a `CallSite`. -/

namespace Bindery
open Template (Naming Substitution)

/-! ### Another order -/

/-- A function that differs from another in `PARAM_ORDER` at most. -/
def Function.Reordered (f₁ f₂ : Function) : Prop :=
  ∃ attrs, f₂ = { f₁ with attrs := attrs } ∧ ∀ key ≠ Function.orderKey, Entries.get? attrs key = f₁.attr? key

theorem Function.Reordered.sameParams {f₁ f₂ : Function} (h : f₁.Reordered f₂) : SameParams f₁ f₂ := by
  obtain ⟨attrs, rfl, hattrs⟩ := h
  refine ⟨rfl, rfl, fun key hkey => hattrs key ?_⟩
  rintro rfl
  exact absurd hkey (by decide)

/-- Catalogs that know the same types, and one function with another `PARAM_ORDER`. -/
structure Catalog.Reordered (name : String) (c₁ c₂ : Catalog) : Prop where
  function : ∃ f₁ f₂, c₁.function? name = some f₁ ∧ c₂.function? name = some f₂ ∧ f₁.Reordered f₂
  types : ∀ type, c₁.type? type = c₂.type? type

namespace Signature
variable {s₁ s₂ : Signature} {name : String}

/-- Another order leaves the name of the function and the declared parameters as they are. -/
theorem params_of_reordered {c₁ c₂ : Catalog} (hc : Catalog.Reordered name c₁ c₂) (h₁ : resolve c₁ name = .ok s₁)
    (h₂ : resolve c₂ name = .ok s₂) : s₂.name = s₁.name ∧ s₂.params = s₁.params := by
  obtain ⟨f₁, hf₁, h₁⟩ := resolve_eq_ok_iff.mp h₁
  obtain ⟨f₂, hf₂, h₂⟩ := resolve_eq_ok_iff.mp h₂
  obtain ⟨_, _, hc₁, hc₂, hsame⟩ := hc.function
  cases hf₁.symm.trans hc₁
  cases hf₂.symm.trans hc₂
  obtain ⟨table, -, htable, -, hparams₁, -, rfl, -⟩ := ofFunction_eq_ok_iff.mp h₁
  obtain ⟨table', -, htable', -, hparams₂, -, rfl, -⟩ := ofFunction_eq_ok_iff.mp h₂
  have hsame := hsame.sameParams
  cases htable'.symm.trans (hsame.params.trans htable)
  rw [← TypedParam.resolve_congr hc.types, hsame.name] at hparams₂
  exact ⟨hsame.name, Except.ok.inj (hparams₂.symm.trans hparams₁)⟩

theorem fill_congr (hname : s₂.name = s₁.name) : s₂.fill = s₁.fill := by
  funext naming p template
  rw [fill, fill, substitution, substitution, hname]

theorem fillAll_congr (hname : s₂.name = s₁.name) : s₂.fillAll = s₁.fillAll := by
  funext naming template ps
  rw [fillAll, fillAll, fill_congr hname]

end Signature

namespace Target

/-! ### Where parameters go by position -/

/-- A place in generated code where the parameters stand by position. -/
inductive CallSite where
  /-- The arguments that a function of R passes to the C code behind it. -/
  | rArguments
  /-- The parameters of the C code behind R. -/
  | rFormals
  /-- The call of the library from the C code behind R. -/
  | rCall
  /-- The call of the library from the C code behind Java. -/
  | javaCall
  /-- The call of the library from a command of the shell. -/
  | shellCall
  /-- The types of the arguments where Python declares the library. -/
  | pythonTypes
  /-- The call of the library from a function of Python. -/
  | pythonCall
deriving Repr, DecidableEq

namespace CallSite
variable {s s₁ s₂ : Signature} {args : List String}

/-- The target that generates the code. -/
def target : CallSite → String
  | rArguments => "RR"
  | rFormals | rCall => "RC"
  | javaCall => "JavaC"
  | shellCall => "Shell"
  | pythonTypes => "PythonCTypes"
  | pythonCall => "PythonCTypesTypedWrapper"

/-- What stands at the place. -/
def arguments (s : Signature) : CallSite → Except Error (List String)
  | rArguments => R.Wrapper.callArguments s
  | rFormals => R.Glue.arguments s
  | rCall => R.Glue.callArguments s
  | javaCall => Java.Glue.callArguments s
  | shellCall => Shell.Program.callArguments s
  | pythonTypes => (Python.Library.argumentTypes s).map fun types => types.map (·.2)
  | pythonCall => .ok (Python.Wrapper.callArguments s)

/-- Whether a parameter stands at the place: it may be no input, or its type may opt out. -/
def takes (p : TypedParam) : CallSite → Bool
  | rArguments => p.reads && decide ((p.template? .call).getD "%I%" ≠ "")
  | rFormals => p.reads && decide ((p.template? .header).getD "%I%" ≠ "")
  | rCall | javaCall => decide ((p.template? .call).getD "%C%" ≠ "")
  | shellCall | pythonCall => true
  | pythonTypes => decide ((p.template? .call).getD "%C%" ≠ "" ∧ p.cType? ≠ some "")

/-- A text is what stands for a parameter of a function. -/
def Gives (s : Signature) (p : TypedParam) (text : String) : CallSite → Prop
  | rArguments => s.fill R.naming p ((p.template? .call).getD "%I%") = .ok text
  | rFormals =>
    ∃ formal, s.fill R.glueNaming p ((p.template? .header).getD "%I%") = .ok formal ∧ text = "SEXP " ++ formal
  | rCall => s.fill R.glueNaming p ((p.template? .call).getD "%C%") = .ok text
  | javaCall => s.fill Java.Glue.inputNaming p ((p.template? .call).getD "%C%") = .ok text
  | shellCall => s.fill .declared p ((p.template? .call).getD "%C%") = .ok text
  | pythonTypes => ∃ c, Python.argumentCType? s.name p = .ok (some c) ∧ text = Python.foreignType c
  | pythonCall => text = cVariable p.name

/-- Texts are those of the parameters, in the order of declaration. -/
def Follows (site : CallSite) (s : Signature) (args : List String) : Prop :=
  List.Forall₂ (fun p text => site.Gives s p text) (s.params.filter fun p => site.takes p) args

/-- A text is put together of the parts of a function, with these arguments at the place. -/
def Lays (s : Signature) (args : List String) (text : String) : CallSite → Prop
  | rArguments => ∃ docs, ∃ x : R.Wrapper.Parts, x.Of s ∧ text = docs ++ x.layout s ∧ x.call = args
  | rFormals => ∃ x : R.Glue.Parts, x.Of s ∧ R.Glue.skeleton.fill (x.fields s) = .ok text ∧ x.formals = args
  | rCall => ∃ x : R.Glue.Parts, x.Of s ∧ R.Glue.skeleton.fill (x.fields s) = .ok text ∧ x.call = args
  | javaCall => ∃ x : Java.Glue.Parts, x.Of s ∧ Java.Glue.skeleton.fill (x.fields s) = .ok text ∧ x.call = args
  | shellCall => ∃ x : Shell.Program.Parts, x.Of s ∧ Shell.Program.skeleton.fill (x.fields s) = .ok text ∧ x.call = args
  | pythonTypes => ∃ result, text = Python.Library.layout s.name result args
  | pythonCall => ∃ x : Python.Wrapper.Parts, x.Of s ∧ text = x.layout s ∧ Python.Wrapper.callArguments s = args

/-- What is written at the place with these arguments, up to the fixed text that follows. -/
def placed (s : Signature) (args : List String) : CallSite → String
  | rArguments => "  # Function call\n" ++ ("  res <- .Call(C_R_" ++ s.name ++ ", " ++ ", ".intercalate args ++ ")\n")
  | rFormals => " /\n/-------------------------------------------*/\n" ++
      ("SEXP R_" ++ s.name ++ "(" ++ ", ".intercalate args ++ ")") ++
      " \x7b\n                                        /* Declarations */\n"
  | rCall => s.name ++ "(" ++ ", ".intercalate args ++ ");" ++
      "\n                                        /* Convert output */\n"
  | javaCall => s.name ++ "(" ++ ", ".intercalate args ++ ");\n" ++ "  \x7d"
  | shellCall => s.name ++ "(" ++ ", ".intercalate args ++ ");" ++ "\n\n  /* Write the result */\n"
  | pythonTypes => s.name ++ ".argtypes = [" ++ ", ".intercalate args ++ "]\n"
  | pythonCall => s.name ++ "(" ++ ", ".intercalate args ++ ")" ++ "\n"

/-- A text is that of a function, and shows these arguments at the place. -/
structure Shows (site : CallSite) (s : Signature) (args : List String) (text : String) : Prop where
  laid : site.Lays s args text
  placed : Text.contains (site.placed s args) text

theorem contains_placed {site : CallSite} {text : String} (h : site.Lays s args text) :
    Text.contains (site.placed s args) text := by
  cases site with
  | rArguments =>
    obtain ⟨docs, x, -, rfl, rfl⟩ := h
    refine Text.contains_append_left docs (Text.contains_trans ?_ (x.contains_call s))
    exact Text.contains_append_right _ (Text.contains_self _)
  | rFormals =>
    obtain ⟨x, -, h, rfl⟩ := h
    exact R.Glue.Parts.contains_head h
  | rCall =>
    obtain ⟨x, -, h, rfl⟩ := h
    exact R.Glue.Parts.contains_call h
  | javaCall =>
    obtain ⟨x, -, h, rfl⟩ := h
    exact Java.Glue.Parts.contains_call h
  | shellCall =>
    obtain ⟨x, -, h, rfl⟩ := h
    exact Shell.Program.Parts.contains_call h
  | pythonTypes =>
    obtain ⟨result, rfl⟩ := h
    exact Python.Library.contains_layout ..
  | pythonCall =>
    obtain ⟨x, -, rfl, rfl⟩ := h
    exact Python.Wrapper.Parts.contains_call x s

theorem Lays.shows {site : CallSite} {text : String} (h : site.Lays s args text) : site.Shows s args text :=
  ⟨h, contains_placed h⟩

/-- What stands at the place is made of the declared parameters alone. -/
theorem arguments_congr (site : CallSite) (hname : s₂.name = s₁.name) (hparams : s₂.params = s₁.params) :
    site.arguments s₂ = site.arguments s₁ := by
  have hinputs : s₂.inputs = s₁.inputs := by rw [Signature.inputs, Signature.inputs, hparams]
  have hfill := Signature.fill_congr hname
  have hfillAll := Signature.fillAll_congr hname
  cases site with
  | rArguments => rw [arguments, arguments, R.Wrapper.callArguments, R.Wrapper.callArguments, hfillAll, hinputs]
  | rFormals => rw [arguments, arguments, R.Glue.arguments, R.Glue.arguments, hfillAll, hinputs]
  | rCall => rw [arguments, arguments, R.Glue.callArguments, R.Glue.callArguments, hfillAll, hparams]
  | javaCall => rw [arguments, arguments, Java.Glue.callArguments, Java.Glue.callArguments, hfillAll, hparams]
  | shellCall => rw [arguments, arguments, Shell.Program.callArguments, Shell.Program.callArguments, hfill, hparams]
  | pythonTypes =>
    have htype : Python.Library.argumentType? s₂ = Python.Library.argumentType? s₁ := by
      funext p
      rw [Python.Library.argumentType?, Python.Library.argumentType?, hname]
    rw [arguments, arguments, Python.Library.argumentTypes, Python.Library.argumentTypes, htype, hparams]
  | pythonCall => rw [arguments, arguments, Python.Wrapper.callArguments, Python.Wrapper.callArguments, hparams]

end CallSite

/-- A parameter is declared as an argument unless the template of the call or its type of C is empty. -/
theorem Python.argumentCType?_eq_none_iff {function : String} {p : TypedParam} {t? : Option String}
    (h : argumentCType? function p = .ok t?) : t? = none ↔ ¬CallSite.pythonTypes.takes p := by
  simp only [argumentCType?] at h
  simp only [CallSite.takes, decide_eq_true_eq, not_and_or, not_not]
  split at h
  · rename_i hcall
    cases h
    simp [hcall]
  · rename_i hcall
    split at h
    · cases h
    · rename_i c hc
      split at h
      · rename_i hempty
        cases h
        simp [hc, hempty]
      · rename_i hsome
        have hnot : ¬((p.template? .call).getD "%C%" = "" ∨ p.cType? = some "") := by simp [hcall, hc, hsome]
        split at h <;> cases h <;> simpa using hnot

/-- The types of the arguments are those of the parameters that are declared as arguments, in their order. -/
theorem Python.Library.forall₂_argumentType? {s : Signature} {ps : List TypedParam}
    {types? : List (Option (TypeInfo × String))} (h : ps.mapM (argumentType? s) = .ok types?) :
    List.Forall₂ (fun p text => CallSite.pythonTypes.Gives s p text) (ps.filter fun p => CallSite.pythonTypes.takes p)
      ((types?.filterMap id).map (·.2)) := by
  induction mapM_eq_ok_iff_forall₂.mp h with
  | nil => exact .nil
  | @cons p type? ps types? hp hrest ih =>
    have ih := ih (mapM_eq_ok_iff_forall₂.mpr hrest)
    obtain ⟨c?, hc, rfl⟩ := map_eq_ok_iff.mp hp
    have hnone := argumentCType?_eq_none_iff hc
    cases c? with
    | none =>
      have hp := hnone.mp rfl
      simpa [hp] using ih
    | some c =>
      have hp : CallSite.pythonTypes.takes p := by simpa using hnone
      simpa [hp] using List.Forall₂.cons ⟨c, hc, rfl⟩ ih

namespace CallSite
variable {s : Signature} {args : List String}

/-- What stands at the place is that of the parameters, in the order of declaration. -/
theorem follows_of_arguments (site : CallSite) (h : site.arguments s = .ok args) : site.Follows s args := by
  have hinputs : ∀ keep : TypedParam → Bool, s.inputs.filter keep = s.params.filter fun p => p.reads && keep p := by
    intro keep
    rw [Signature.inputs, List.filter_filter]
    exact List.filter_congr fun p _ => Bool.and_comm _ _
  have hall : s.params.filter (fun _ => true) = s.params := List.filter_true _
  cases site with
  | rArguments =>
    have h := Signature.fillAll_eq_ok_iff.mp h
    rwa [hinputs] at h
  | rFormals =>
    obtain ⟨formals, hformals, rfl⟩ := map_eq_ok_iff.mp h
    have h := Signature.fillAll_eq_ok_iff.mp hformals
    rw [hinputs] at h
    exact List.forall₂_map_right_iff.mpr (h.imp fun p formal hp => ⟨formal, hp, rfl⟩)
  | rCall => exact Signature.fillAll_eq_ok_iff.mp h
  | javaCall => exact Signature.fillAll_eq_ok_iff.mp h
  | shellCall =>
    have h := mapM_eq_ok_iff_forall₂.mp h
    rwa [← hall] at h
  | pythonTypes =>
    obtain ⟨types, htypes, rfl⟩ := map_eq_ok_iff.mp h
    obtain ⟨types?, htypes?, rfl⟩ := map_eq_ok_iff.mp htypes
    exact Python.Library.forall₂_argumentType? htypes?
  | pythonCall =>
    obtain rfl := Except.ok.inj h
    rw [Follows]
    simp only [takes, hall]
    exact List.forall₂_map_right_iff.mpr (List.forall₂_same.mpr fun p _ => rfl)

/-- A function that the target has rendered has its arguments at the place. -/
theorem lays_of_render (site : CallSite) {files : Files} {docFolder? : Option String} {g : Generator}
    (hg : Generator.ofName? files docFolder? site.target = some g) {r : Run g.State} {name text : String}
    (h : ((g.target.render name).run.run r).1 = .ok text) :
    ∃ s args, Signature.resolve r.session.catalog name = .ok s ∧ site.arguments s = .ok args ∧
      site.Lays s args text := by
  cases site with
  | rArguments =>
    cases hg
    obtain ⟨s, docs, hs, x, hx, rfl⟩ := R.Wrapper.eq_ok_of_run h
    exact ⟨s, x.call, hs, hx.call, docs, x, hx, rfl, rfl⟩
  | rFormals =>
    cases hg
    obtain ⟨s, hs, h⟩ := R.Glue.run_eq_ok_iff.mp h
    obtain ⟨x, hx, h⟩ := R.Glue.render_eq_ok_iff.mp h
    exact ⟨s, x.formals, hs, hx.formals, x, hx, h, rfl⟩
  | rCall =>
    cases hg
    obtain ⟨s, hs, h⟩ := R.Glue.run_eq_ok_iff.mp h
    obtain ⟨x, hx, h⟩ := R.Glue.render_eq_ok_iff.mp h
    exact ⟨s, x.call, hs, hx.call, x, hx, h, rfl⟩
  | javaCall =>
    cases hg
    obtain ⟨s, hs, h⟩ := Java.Glue.run_eq_ok_iff.mp h
    obtain ⟨x, hx, h⟩ := Java.Glue.render_eq_ok_iff.mp h
    exact ⟨s, x.call, hs, hx.call, x, hx, h, rfl⟩
  | shellCall =>
    cases hg
    obtain ⟨s, hs, h⟩ := Shell.Program.run_eq_ok_iff.mp h
    obtain ⟨x, hx, h⟩ := Shell.Program.render_eq_ok_iff.mp h
    exact ⟨s, x.call, hs, hx.call, x, hx, h, rfl⟩
  | pythonTypes =>
    cases hg
    obtain ⟨s, uses, hs, h⟩ := Python.Library.eq_ok_of_run h
    obtain ⟨result, types, -, htypes, rfl, -⟩ := Python.Library.render_eq_ok_iff.mp h
    have hargs : pythonTypes.arguments s = .ok (types.map (·.2)) := map_eq_ok_iff.mpr ⟨types, htypes, rfl⟩
    refine ⟨s, types.map (·.2), hs, hargs, ?_⟩
    exact ⟨result, rfl⟩
  | pythonCall =>
    cases hg
    obtain ⟨s, hs, h⟩ := Python.Wrapper.run_eq_ok_iff.mp h
    obtain ⟨x, hx, rfl⟩ := Python.Wrapper.render_eq_ok_iff.mp h
    exact ⟨s, Python.Wrapper.callArguments s, hs, rfl, x, hx, rfl, rfl⟩

theorem shows_of_render (site : CallSite) {files : Files} {docFolder? : Option String} {g : Generator}
    (hg : Generator.ofName? files docFolder? site.target = some g) {r : Run g.State} {name text : String}
    (h : ((g.target.render name).run.run r).1 = .ok text) :
    ∃ s args, Signature.resolve r.session.catalog name = .ok s ∧ site.arguments s = .ok args ∧
      site.Shows s args text := by
  obtain ⟨s, args, hs, hargs, hlays⟩ := site.lays_of_render hg h
  exact ⟨s, args, hs, hargs, hlays.shows⟩

/-- Whatever `PARAM_ORDER` says, the arguments at the place are the same. They follow the order of declaration. -/
theorem same_arguments (site : CallSite) {files : Files} {docFolder? : Option String} {g : Generator}
    (hg : Generator.ofName? files docFolder? site.target = some g) {r₁ r₂ : Run g.State} {name text₁ text₂ : String}
    (hc : Catalog.Reordered name r₁.session.catalog r₂.session.catalog)
    (h₁ : ((g.target.render name).run.run r₁).1 = .ok text₁)
    (h₂ : ((g.target.render name).run.run r₂).1 = .ok text₂) :
    ∃ s₁ s₂ args, Signature.resolve r₁.session.catalog name = .ok s₁ ∧
      Signature.resolve r₂.session.catalog name = .ok s₂ ∧ s₁.function.Declares (s₁.params.map (·.param.declared)) ∧
      site.Follows s₁ args ∧ site.Shows s₁ args text₁ ∧ site.Shows s₂ args text₂ := by
  obtain ⟨s₁, args, hs₁, hargs, hshows₁⟩ := site.shows_of_render hg h₁
  obtain ⟨s₂, args₂, hs₂, hargs₂, hshows₂⟩ := site.shows_of_render hg h₂
  obtain ⟨hname, hparams⟩ := Signature.params_of_reordered hc hs₁ hs₂
  rw [site.arguments_congr hname hparams] at hargs₂
  cases hargs.symm.trans hargs₂
  obtain ⟨f₁, -, hf₁⟩ := Signature.resolve_eq_ok_iff.mp hs₁
  exact ⟨s₁, s₂, args, hs₁, hs₂, (Signature.arranged_of_ofFunction hf₁).declares, site.follows_of_arguments hargs,
    hshows₁, hshows₂⟩

/-- Two lists as the order of one function. -/
theorem reordered_catalogOf (params order₁ order₂ : String) :
    Catalog.Reordered "f" (Signature.catalogOf params order₁) (Signature.catalogOf params order₂) where
  function := by
    refine ⟨_, _, rfl, rfl, _, rfl, fun key hkey => ?_⟩
    simp only [Function.attr?, Entries.get?, if_neg hkey.symm]
  types _ := rfl

/-- One order is the other way round, and so are the parameters of the function of R; what it passes is the same. -/
theorem same_arguments_swapped :
    let written (parameters : String) : String := "#' @export\n <- function(" ++ parameters ++ ") \x7b\n" ++
      "  # Argument checks\n\n  on.exit( .Call(C_R_igraph_finalizer) )\n" ++
      "  # Function call\n  res <- .Call(C_R_f, a, b)\n  res\n\x7d\n\n"
    ∃ s₁ s₂ args, Signature.resolve (Signature.catalogOf "INT a, INT b" "a, b") "f" = .ok s₁ ∧
      Signature.resolve (Signature.catalogOf "INT a, INT b" "b, a") "f" = .ok s₂ ∧ s₁.ordered ≠ s₂.ordered ∧
      rArguments.Follows s₁ args ∧ rArguments.Shows s₁ args (written "a, b") ∧
      rArguments.Shows s₂ args (written "b, a") := by
  intro written
  let r (order : String) : Run (Option Docs) := ⟨.start (Signature.catalogOf "INT a, INT b" order) "RR" .default, none⟩
  have hg : Generator.ofName? .empty none rArguments.target = some ⟨_, none, R.Wrapper.target .empty⟩ := rfl
  have h₁ : (((R.Wrapper.target .empty).render "f").run.run (r "a, b")).1 = .ok (written "a, b") := by decide +kernel
  have h₂ : (((R.Wrapper.target .empty).render "f").run.run (r "b, a")).1 = .ok (written "b, a") := by decide +kernel
  obtain ⟨s₁, s₂, args, hs₁, hs₂, -, hfollows, hshows₁, hshows₂⟩ :=
    same_arguments rArguments hg (reordered_catalogOf _ _ _) h₁ h₂
  refine ⟨s₁, s₂, args, hs₁, hs₂, fun hordered => ?_, hfollows, hshows₁, hshows₂⟩
  have hnames : (Signature.resolve (r "a, b").session.catalog "f").map (·.ordered.map (·.name)) ≠
    (Signature.resolve (r "b, a").session.catalog "f").map (·.ordered.map (·.name)) := by decide +kernel
  rw [hs₁, hs₂, Except.map, Except.map, hordered] at hnames
  exact hnames rfl

end CallSite
end Target
end Bindery
