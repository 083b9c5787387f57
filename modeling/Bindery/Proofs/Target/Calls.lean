import Bindery.Proofs.Target.CallOrder
import Bindery.Proofs.Template.Tokens
import Bindery.Proofs.Text.Contains

/-! # The arguments of calls

Four targets write calls of the library. A parameter passes what the template of its type for the call gives, and one
whose template is empty passes nothing (`arguments_of_call`). The C code behind R and behind Java writes what is passed
and nothing else. A command of the shell also writes an empty argument for every parameter that passes nothing, and a
function of R a comma in front of no argument; `Tidy` says when this shows. -/

namespace Bindery
open Template (Naming Placeholder Substitution)

theorem forall₂_filter {α β : Type} {R : α → β → Prop} {p : α → Bool} {q : β → Bool} {as : List α} {bs : List β}
    (h : List.Forall₂ R as bs) (hpq : ∀ a ∈ as, ∀ b, R a b → p a = q b) :
    List.Forall₂ R (as.filter p) (bs.filter q) := by
  induction h with
  | nil => exact .nil
  | @cons a b as bs hab _ ih =>
    have ih := ih fun a ha => hpq a (List.mem_cons_of_mem _ ha)
    have hhead := hpq a (List.mem_cons_self ..) b hab
    cases hp : p a <;> rw [hp] at hhead
    · simpa [hp, ← hhead] using ih
    · simpa [hp, ← hhead] using ⟨hab, ih⟩

namespace Target.CallSite
variable {site : CallSite} {s : Signature} {p : TypedParam} {items : List String} {text : String}

/-! ### Calls -/

/-- The places where a function is called with its arguments. -/
def calls : List CallSite := [rArguments, rCall, javaCall, shellCall]

/-- What the parameters are called at the place. -/
def naming : CallSite → Naming
  | rArguments => R.naming
  | rFormals | rCall => R.glueNaming
  | javaCall => Java.Glue.inputNaming
  | shellCall | pythonTypes => .declared
  | pythonCall => Python.Wrapper.naming

/-- The template of a type that has none for the call: the name of the parameter. -/
def ownName : CallSite → String
  | rArguments | rFormals => "%I%"
  | _ => "%C%"

/-- The template of a parameter for the call. -/
def template (p : TypedParam) (site : CallSite) : String := (p.template? .call).getD site.ownName

/-- Whether a parameter passes something: it stands at the place, and its template is not empty. -/
def passes (p : TypedParam) (site : CallSite) : Bool := site.takes p && decide (site.template p ≠ "")

/-- The templates for the call that are not empty give texts that are not empty. -/
def SpellsOut (site : CallSite) (s : Signature) : Prop :=
  ∀ p ∈ s.params, ∀ template ∈ p.template? .call, template ≠ "" → s.fill site.naming p template ≠ .ok ""

instance (site : CallSite) (s : Signature) : Decidable (site.SpellsOut s) := by unfold SpellsOut; infer_instance

/-- What is called. R calls the library by way of the C code behind it. -/
def callee (s : Signature) : CallSite → String
  | rArguments => ".Call"
  | _ => s.name

/-- What is passed before the parameters. -/
def leading (s : Signature) : CallSite → List String
  | rArguments => [s!"C_R_{s.name}"]
  | _ => []

/-- What is written between the brackets of a call, with the texts of the parameters that stand at the place. -/
def argumentText (s : Signature) (items : List String) : CallSite → String
  | rArguments => s!"C_R_{s.name}, {Text.commaJoin items}"
  | _ => Text.commaJoin items

/-- The call as it is written. -/
def callText (site : CallSite) (s : Signature) (items : List String) : String :=
  s!"{site.callee s}({site.argumentText s items})"

/-- No argument is written that is empty: a function of R passes something, and a command of the shell passes all of
its parameters, or has one at most. -/
def Tidy (s : Signature) : CallSite → Prop
  | rArguments => ∃ p ∈ s.params, rArguments.passes p
  | shellCall => (∀ p ∈ s.params, shellCall.passes p) ∨ s.params.length ≤ 1
  | _ => True

/-- A call with the texts of the parameters that stand at the place, of which `args` are passed. -/
structure Calls (site : CallSite) (s : Signature) (items args : List String) (text : String) : Prop where
  shows : site.Shows s items text
  contains : Text.contains (site.callText s items) text
  passed : List.Forall₂ (fun p arg => site.Gives s p arg) (s.params.filter fun p => site.passes p) args
  nonempty : "" ∉ args
  written : items.filter (· ≠ "") = args
  tidy_iff : site.argumentText s items = Text.commaJoin (site.leading s ++ args) ↔ site.Tidy s

theorem mem_calls (h : site ∈ calls) : site = rArguments ∨ site = rCall ∨ site = javaCall ∨ site = shellCall := by
  simpa [calls] using h

/-! ### What a parameter passes -/

theorem gives_iff (hsite : site ∈ calls) : site.Gives s p text ↔ s.fill site.naming p (site.template p) = .ok text := by
  rcases mem_calls hsite with rfl | rfl | rfl | rfl <;> rfl

theorem fill_ownName_ne (hsite : site ∈ calls) (hname : p.name ≠ "") :
    s.fill site.naming p site.ownName ≠ .ok "" := by
  have hvariable : cVariable p.name ≠ "" := by simp [cVariable]
  have hinternal (naming : Naming) : s.fill naming p "%C%" = .ok (naming.internal p.name) :=
    Substitution.fill_of_parse? (p := .internalName) (by decide) rfl
  have hinterface (naming : Naming) : s.fill naming p "%I%" = .ok (naming.interface p.name) :=
    Substitution.fill_of_parse? (p := .interfaceName) (by decide) rfl
  rcases mem_calls hsite with rfl | rfl | rfl | rfl <;>
    simp only [naming, ownName, hinternal, hinterface, ne_eq, Except.ok.injEq]
  · simpa [R.naming, R.dotted, Text.replaceChar] using hname
  · exact hvariable
  · exact hvariable
  · exact hname

/-- What a parameter gives is empty only if its template is. -/
theorem gives_empty_iff (hsite : site ∈ calls) (hs : s.Arranged) (hspells : site.SpellsOut s) (hp : p ∈ s.params)
    (h : site.Gives s p text) : text = "" ↔ site.template p = "" := by
  rw [gives_iff hsite] at h
  constructor
  · rintro rfl
    by_contra hne
    cases htemplate : p.template? .call with
    | none =>
      rw [template, htemplate] at h
      exact fill_ownName_ne hsite (hs.name_ne_empty hp) h
    | some template =>
      rw [CallSite.template, htemplate] at h hne
      exact hspells p hp template htemplate hne h
  · intro hempty
    rw [hempty] at h
    exact (Except.ok.inj h).symm

/-- The texts that are not empty are those of the parameters that pass something. -/
theorem passed_of_follows (hsite : site ∈ calls) (hs : s.Arranged) (hspells : site.SpellsOut s)
    (h : site.Follows s items) :
    List.Forall₂ (fun p arg => site.Gives s p arg) (s.params.filter fun p => site.passes p)
      (items.filter (· ≠ "")) := by
  have hpasses : s.params.filter (fun p => site.passes p) =
      (s.params.filter fun p => site.takes p).filter fun p => decide (site.template p ≠ "") := by
    rw [List.filter_filter]
    exact List.filter_congr fun p _ => Bool.and_comm _ _
  rw [hpasses]
  refine forall₂_filter h fun p hp text htext => ?_
  have hempty := gives_empty_iff hsite hs hspells (List.mem_of_mem_filter hp) htext
  rw [Bool.eq_iff_iff, decide_eq_true_iff, decide_eq_true_iff, ne_eq, ne_eq, hempty]

/-! ### What is written -/

theorem passes_eq_takes (hsite : site ∈ calls) (hshell : site ≠ shellCall) : site.passes p = site.takes p := by
  rcases mem_calls hsite with rfl | rfl | rfl | rfl
  · exact (Bool.and_assoc ..).trans (congrArg _ (Bool.and_self _))
  · exact Bool.and_self _
  · exact Bool.and_self _
  · exact absurd rfl hshell

/-- A parameter that passes nothing has no text at the place, but for commands of the shell. -/
theorem filter_of_follows (hsite : site ∈ calls) (hshell : site ≠ shellCall) (hs : s.Arranged)
    (hspells : site.SpellsOut s) (h : site.Follows s items) : items.filter (· ≠ "") = items := by
  have hlength := (passed_of_follows hsite hs hspells h).length_eq
  simp only [passes_eq_takes hsite hshell] at hlength
  rw [List.Forall₂.length_eq h] at hlength
  exact List.filter_eq_self.mpr (List.length_filter_eq_length_iff.mp hlength.symm)

/-- A comma is written in front of no argument if no parameter passes something. -/
theorem argumentText_rArguments (hpassed : (s.params.filter fun p => rArguments.passes p).length = items.length) :
    rArguments.argumentText s items = Text.commaJoin (rArguments.leading s ++ items) ↔ rArguments.Tidy s := by
  have htidy : rArguments.Tidy s ↔ items ≠ [] := by
    rw [ne_eq, ← List.length_eq_zero_iff, ← hpassed, List.length_eq_zero_iff, List.filter_eq_nil_iff]
    simp [Tidy]
  rw [htidy]
  cases items with
  | nil =>
    refine iff_of_false (fun h => ?_) (· rfl)
    have hlength := congrArg String.length h
    simp only [argumentText, leading, Text.commaJoin, Text.joinWith, List.append_nil, String.length_append] at hlength
    have hcomma : (toString ", ").length = 2 := rfl
    omega
  | cons arg rest => exact iff_of_true rfl (List.cons_ne_nil _ _)

/-- An empty argument is written for each parameter that passes nothing. -/
theorem argumentText_shellCall (hlength : s.params.length = items.length)
    (hpassed : (s.params.filter fun p => shellCall.passes p).length = (items.filter (· ≠ "")).length) :
    shellCall.argumentText s items = Text.commaJoin (shellCall.leading s ++ items.filter (· ≠ "")) ↔
      shellCall.Tidy s := by
  have hall : (∀ p ∈ s.params, shellCall.passes p) ↔ "" ∉ items := by
    rw [← List.length_filter_eq_length_iff, hpassed, hlength, Text.length_filter_ne_empty_iff]
  rw [Tidy, hall, hlength]
  exact Text.joinWith_filter_eq_iff (by decide)

theorem argumentText_eq_iff (hsite : site ∈ calls) (hs : s.Arranged) (hspells : site.SpellsOut s)
    (h : site.Follows s items) :
    site.argumentText s items = Text.commaJoin (site.leading s ++ items.filter (· ≠ "")) ↔ site.Tidy s := by
  have hpassed := (passed_of_follows hsite hs hspells h).length_eq
  have hfilter := fun hshell => filter_of_follows hsite hshell hs hspells h
  have hlength := List.Forall₂.length_eq h
  rcases mem_calls hsite with rfl | rfl | rfl | rfl
  · rw [hfilter (by decide)] at hpassed ⊢
    exact argumentText_rArguments hpassed
  · rw [hfilter (by decide)]
    exact iff_of_true rfl trivial
  · rw [hfilter (by decide)]
    exact iff_of_true rfl trivial
  · have hall : s.params.filter (fun p => shellCall.takes p) = s.params := List.filter_true _
    exact argumentText_shellCall (hall ▸ hlength) hpassed

theorem contains_callLine (s : Signature) (items : List String) :
    Text.contains (rArguments.callText s items) (R.Wrapper.callLine s.name items) := by
  have hline : ∀ {front closing code separator args : String}, front = "  res <- " ++ (".Call" ++ ("(" ++ "C_R_")) →
      closing = ")" ++ "\n" → front ++ code ++ separator ++ args ++ closing =
        "  res <- " ++ (".Call" ++ "(" ++ ("C_R_" ++ code ++ separator ++ args) ++ ")") ++ "\n" := by
    rintro _ _ code separator args rfl rfl
    simp only [String.append_assoc]
  have hcall := Text.contains_append "  res <- " (rArguments.callText s items) "\n"
  exact (congrArg (Text.contains _) (hline (by decide) (by decide))).trans hcall

/-- A call stands in front of what closes it. -/
theorem contains_closed {closing rest : String} (function args after : String) (hclosing : closing = ")" ++ rest) :
    Text.contains (function ++ "(" ++ args ++ ")") (function ++ "(" ++ args ++ closing ++ after) := by
  have hcall := Text.contains_append_right after
    (Text.contains_append_right rest (Text.contains_self (function ++ "(" ++ args ++ ")")))
  simpa only [hclosing, String.append_assoc] using hcall

/-- A text that shows the arguments of a call contains the call. -/
theorem contains_callText (hsite : site ∈ calls) (h : site.Shows s items text) :
    Text.contains (site.callText s items) text := by
  refine Text.contains_trans ?_ h.placed
  unfold placed
  rw [← Text.commaJoin_eq_intercalate]
  rcases mem_calls hsite with rfl | rfl | rfl | rfl
  · exact Text.contains_append_left _ (contains_callLine s items)
  · exact contains_closed s.name _ _ (by decide : ");" = ")" ++ ";")
  · exact contains_closed s.name _ _ (by decide : ");\n" = ")" ++ ";\n")
  · exact contains_closed s.name _ _ (by decide : ");" = ")" ++ ";")

/-- What a call passes are the texts that the templates of its parameters give; an empty template gives none. -/
theorem arguments_of_call (hsite : site ∈ calls) {files : Files} {docFolder? : Option String} {g : Generator}
    (hg : Generator.ofName? files docFolder? site.target = some g) {r : Run g.State} {name : String}
    (h : ((g.target.render name).run.run r).1 = .ok text)
    (hspells : ∀ s, Signature.resolve r.session.catalog name = .ok s → site.SpellsOut s) :
    ∃ s items args, Signature.resolve r.session.catalog name = .ok s ∧ site.Calls s items args text := by
  obtain ⟨s, items, hs, hitems, hshows⟩ := site.shows_of_render hg h
  have hfollows := site.follows_of_arguments hitems
  obtain ⟨f, -, hf⟩ := Signature.resolve_eq_ok_iff.mp hs
  have harranged := Signature.arranged_of_ofFunction hf
  refine ⟨s, items, items.filter (· ≠ ""), hs, hshows, contains_callText hsite hshows, ?_, ?_, rfl, ?_⟩
  · exact passed_of_follows hsite harranged (hspells s hs) hfollows
  · simp
  · exact argumentText_eq_iff hsite harranged (hspells s hs) hfollows

/-- A catalog of one function `f` with these parameters, and types that pass a name, nothing and a reference. -/
def catalogOf (params : String) : Catalog :=
  { Signature.catalogOf params "..." with
    types := [("INT", .new "INT"), ("SKIP", ⟨"SKIP", [("CALL", .text "")], .empty⟩),
      ("REF", ⟨"REF", [("CALL", .text "&%C%")], .empty⟩)] }

/-- Two of the three parameters pass something. -/
theorem arguments_of_call_opted :
    let r : Run Unit := ⟨.start (catalogOf "REF a, SKIP b, INT c") "RC" .default, ()⟩
    let text := "\n/*-------------------------------------------/\n/ f                                          /\n" ++
      "/-------------------------------------------*/\nSEXP R_f(SEXP a, SEXP b, SEXP c) \x7b\n" ++
      "                                        /* Declarations */\n  SEXP result;\n" ++
      "                                        /* Convert input */\n\n" ++
      "                                        /* Call igraph */\n  c_result=f(&c_a, c_c);\n" ++
      "                                        /* Convert output */\n\n\n  UNPROTECT(1);\n  return(result);\n\x7d\n"
    ((R.Glue.target.render "f").run.run r).1 = .ok text ∧ ∃ s items args, rCall.Calls s items args text ∧
      s.params.length = 3 ∧ args.length = 2 := by
  intro r text
  have hg : Generator.ofName? .empty none rCall.target = some (.stateless R.Glue.target) := rfl
  have htext : ((R.Glue.target.render "f").run.run r).1 = .ok text := by decide +kernel
  have hresolve : (Signature.resolve r.session.catalog "f").map (fun s => (decide (rCall.SpellsOut s),
      s.params.length, (s.params.filter fun p => rCall.passes p).length)) = .ok (true, 3, 2) := by decide +kernel
  have hspells : ∀ s, Signature.resolve r.session.catalog "f" = .ok s →
      rCall.SpellsOut s ∧ s.params.length = 3 ∧ (s.params.filter fun p => rCall.passes p).length = 2 := by
    intro s hs
    rw [hs] at hresolve
    simpa [Except.map] using hresolve
  obtain ⟨s, items, args, hs, hcalls⟩ := arguments_of_call (by decide) hg htext fun s hs => (hspells s hs).1
  obtain ⟨-, hparams, hpasses⟩ := hspells s hs
  exact ⟨htext, s, items, args, hcalls, hparams, hcalls.passed.length_eq ▸ hpasses⟩

/-- No parameter passes anything, and yet a comma is written. -/
theorem writes_empty_arguments :
    let r₁ : Run Unit := ⟨.start (catalogOf "SKIP a, SKIP b") "Shell" .default, ()⟩
    let r₂ : Run (Option Docs) := ⟨.start (catalogOf "SKIP a, SKIP b") "RR" .default, none⟩
    (∃ s, Signature.resolve (catalogOf "SKIP a, SKIP b") "f" = .ok s ∧
      ∀ site ∈ calls, site.SpellsOut s ∧ ∀ p ∈ s.params, ¬site.passes p) ∧
      (∃ text, ((Shell.Program.target.render "f").run.run r₁).1 = .ok text ∧ Text.contains "f(, )" text) ∧
      ∃ text, (((R.Wrapper.target .empty).render "f").run.run r₂).1 = .ok text ∧
        Text.contains ".Call(C_R_f, )" text := by
  intro r₁ r₂
  have hresolve : (Signature.resolve (catalogOf "SKIP a, SKIP b") "f").map (fun s =>
      (decide (∀ site ∈ calls, site.SpellsOut s ∧ ∀ p ∈ s.params, ¬site.passes p), s.name,
        shellCall.arguments s, rArguments.arguments s)) = .ok (true, "f", .ok ["", ""], .ok []) := by decide +kernel
  obtain ⟨s, hs, hall⟩ := map_eq_ok_iff.mp hresolve
  simp only [Prod.mk.injEq, decide_eq_true_eq] at hall
  obtain ⟨hpasses, hname, hshell, hr⟩ := hall
  refine ⟨⟨s, hs, hpasses⟩, ?_, ?_⟩
  · have hg : Generator.ofName? .empty none shellCall.target = some (.stateless Shell.Program.target) := rfl
    obtain ⟨text, h, -⟩ := map_eq_ok_iff.mp (show
      (((Shell.Program.target.render "f").run.run r₁).1.map fun _ => ()) = .ok () by decide +kernel)
    obtain ⟨s', items, hs', hitems, hshows⟩ := shellCall.shows_of_render hg h
    cases hs.symm.trans hs'
    cases hshell.symm.trans hitems
    have hcall := contains_callText (by decide) hshows
    have htext : shellCall.callText s ["", ""] = "f(, )" := by
      change s.name ++ "(" ++ Text.commaJoin ["", ""] ++ ")" = _
      rw [hname]
      decide
    exact ⟨text, h, htext ▸ hcall⟩
  · have hg : Generator.ofName? .empty none rArguments.target = some ⟨_, none, R.Wrapper.target .empty⟩ := rfl
    obtain ⟨text, h, -⟩ := map_eq_ok_iff.mp (show
      ((((R.Wrapper.target .empty).render "f").run.run r₂).1.map fun _ => ()) = .ok () by decide +kernel)
    obtain ⟨s', items, hs', hitems, hshows⟩ := rArguments.shows_of_render hg h
    cases hs.symm.trans hs'
    cases hr.symm.trans hitems
    have hcall := contains_callText (by decide) hshows
    have htext : rArguments.callText s [] = ".Call(C_R_f, )" := by
      change ".Call" ++ "(" ++ ("C_R_" ++ s.name ++ ", " ++ Text.commaJoin []) ++ ")" = _
      rw [hname]
      decide
    exact ⟨text, h, htext ▸ hcall⟩

end Target.CallSite
end Bindery
