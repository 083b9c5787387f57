import Bindery.Proofs.Target.CallOrder

/-! # R and the C code behind it

A function of R and the function of C that it calls are rendered on their own, and their types may have nothing in
common. They agree all the same (`Agree`): on the shape of the result, on the names and the parameters of an aggregate,
and on what goes by position from the one to the other. -/

namespace Bindery

/-! ### One function with types of two kinds -/

namespace TypedParam
variable {ps qs : List TypedParam}

/-- Parameters may be left out of two lists alike. -/
theorem map_param_filter {keep₁ keep₂ : TypedParam → Bool} (h : ps.map (·.param) = qs.map (·.param))
    (hkeep : ∀ p ∈ ps, ∀ q ∈ qs, p.param = q.param → keep₁ p = keep₂ q) :
    (ps.filter keep₁).map (·.param) = (qs.filter keep₂).map (·.param) := by
  induction ps generalizing qs with
  | nil =>
    obtain rfl := List.map_eq_nil_iff.mp h.symm
    rfl
  | cons p ps ih =>
    obtain ⟨q, qs, rfl, hpq, hrest⟩ := List.map_eq_cons_iff.mp h.symm
    have ih := ih hrest.symm fun p hp q hq => hkeep p (List.mem_cons_of_mem _ hp) q (List.mem_cons_of_mem _ hq)
    have hhead := hkeep p List.mem_cons_self q List.mem_cons_self hpq.symm
    rw [List.filter_cons, List.filter_cons, hhead]
    split
    · rw [List.map_cons, List.map_cons, hpq, ih]
    · exact ih

theorem find?_map_param (name : String) :
    (ps.find? fun p => p.name == name).map (·.param) = (ps.map (·.param)).find? fun p => p.name == name := by
  rw [List.find?_map]
  rfl

end TypedParam

namespace ResultShape

/-- Two shapes that differ in the types of the parameters at most. -/
def Same : ResultShape → ResultShape → Prop
  | returned, returned => True
  | single p, single q => p.param = q.param
  | aggregate ps, aggregate qs => ps.map (·.param) = qs.map (·.param)
  | _, _ => False

theorem same_ofOutputs {ps qs : List TypedParam} (h : ps.map (·.param) = qs.map (·.param)) :
    Same (ofOutputs ps) (ofOutputs qs) := by
  rcases ps with _ | ⟨p, _ | ⟨p', ps⟩⟩ <;> rcases qs with _ | ⟨q, _ | ⟨q', qs⟩⟩ <;> simp_all [ofOutputs, Same]

end ResultShape

namespace Signature
variable {s₁ s₂ : Signature} {c₁ c₂ : Catalog} {name : String}

/-- Two signatures that differ in types at most. -/
structure Alike (s₁ s₂ : Signature) : Prop where
  function : s₁.function = s₂.function
  params : s₁.params.map (·.param) = s₂.params.map (·.param)
  ordered : s₁.ordered.map (·.param) = s₂.ordered.map (·.param)

theorem alike_of_resolve (hf : c₁.function? name = c₂.function? name) (h₁ : resolve c₁ name = .ok s₁)
    (h₂ : resolve c₂ name = .ok s₂) : s₁.Alike s₂ := by
  obtain ⟨f, hf₁, h₁⟩ := resolve_eq_ok_iff.mp h₁
  obtain ⟨_, hf₂, h₂⟩ := resolve_eq_ok_iff.mp h₂
  cases (hf₁.symm.trans hf).trans hf₂
  obtain ⟨table, order, htable, horder, hfunction₁, hparams₁, hordered₁⟩ := ofFunction_eq_ok h₁
  obtain ⟨_, _, htable₂, horder₂, hfunction₂, hparams₂, hordered₂⟩ := ofFunction_eq_ok h₂
  cases htable.symm.trans htable₂
  cases horder.symm.trans horder₂
  refine ⟨hfunction₁.trans hfunction₂.symm, hparams₁.trans hparams₂.symm, ?_⟩
  simp only [hordered₁, hordered₂, List.map_filterMap, TypedParam.find?_map_param, hparams₁, hparams₂]

/-- The result has the same shape. -/
theorem Alike.shape (h : s₁.Alike s₂) : s₁.shape.Same s₂.shape := by
  refine ResultShape.same_ofOutputs (TypedParam.map_param_filter h.ordered fun p _ q _ hpq => ?_)
  rw [TypedParam.writes, TypedParam.writes, hpq]

end Signature

namespace Target.R
open Template (Substitution)
variable {s s₁ s₂ : Signature}

/-! ### The outputs -/

/-- Lines that make an aggregate: the places go from the first to the last, and each takes one output and its name. -/
def Glue.Assembles (outputs : List TypedParam) (lines : List String) : Prop :=
  let n := outputs.length
  ∃ conversions elements names : List String,
    lines = [s!"PROTECT(result=NEW_LIST({n}));", s!"PROTECT(names=NEW_CHARACTER({n}));"] ++ conversions ++ elements ++
      names ++ ["SET_NAMES(result, names);", s!"UNPROTECT({n + 1});"] ∧
    List.Forall₂ (fun i line => ∃ p, outputs[i]? = some p ∧ line = s!"SET_VECTOR_ELT(result, {i}, {p.name});")
      (List.range n) elements ∧
    List.Forall₂ (fun i line => ∃ p, outputs[i]? = some p ∧
      line = s!"SET_STRING_ELT(names, {i}, CREATE_STRING_VECTOR(\"{p.param.displayName}\"));") (List.range n) names

/-- Among lines is the conversion of an output, unless it has none or an empty one. The output goes by a name there. -/
def Wrapper.Converts (s : Signature) (p : TypedParam) (name : String) (lines : List String) : Prop :=
  ∀ template, p.template? .outConv = some template →
    ∃ line, Substitution.fill { s.substitution naming p with interface := name } template = .ok line ∧
      (line ≠ "" → line ∈ lines)

theorem Glue.assembles_aggregateLines (outputs : List TypedParam) (conversions : List String) :
    Assembles outputs (aggregateLines outputs conversions) := by
  have hplaces : ∀ line : TypedParam → Nat → String,
      List.Forall₂ (fun i text => ∃ p, outputs[i]? = some p ∧ text = line p i) (List.range outputs.length)
        (outputs.mapIdx fun i p => line p i) := by
    intro line
    refine List.forall₂_iff_get.mpr ⟨by simp, fun i hi _ => ?_⟩
    simp only [List.length_range] at hi
    exact ⟨outputs[i], by simp [hi], by simp⟩
  exact ⟨conversions, _, _, rfl, hplaces elementLine, hplaces nameLine⟩

theorem Glue.assembles_of_outputConversions {ps : List TypedParam} {lines : List String}
    (hshape : s.shape = .aggregate ps) (h : outputConversions s = .ok lines) : Assembles ps lines := by
  rw [outputConversions, bind_eq_ok_iff] at h
  obtain ⟨conversions, -, h⟩ := h
  rw [hshape] at h
  obtain rfl := Except.ok.inj h
  exact assembles_aggregateLines ps conversions

theorem Wrapper.converts_of_outputConversions {p : TypedParam} {lines : List String} (hp : p ∈ s.params)
    (h : outputConversions s = .ok lines) : Converts s p (outputName s.shape p) lines := by
  intro template htemplate
  simp only [outputConversions, bind_eq_ok_iff, pure_eq_ok_iff] at h
  obtain ⟨lines?, hlines?, returned, -, rfl⟩ := h
  obtain ⟨line?, hline?, hconversion⟩ := exists_mem_of_mapM_eq_ok hlines? hp
  rw [outputConversion?, htemplate, map_eq_ok_iff] at hconversion
  obtain ⟨line, hline, rfl⟩ := hconversion
  refine ⟨line, hline, fun hne => List.mem_append_left _ (List.mem_filter.mpr ⟨?_, by simpa using hne⟩)⟩
  exact List.mem_filterMap.mpr ⟨some line, hline?, rfl⟩

/-! ### What goes by position -/

/-- The inputs that opt out of the call in R are those that opt out of the head in C. -/
def OptOutAlike (s₁ s₂ : Signature) : Prop :=
  ∀ p ∈ s₁.inputs, ∀ q ∈ s₂.inputs, p.param = q.param → (p.template? .call = some "" ↔ q.template? .header = some "")

instance : Decidable (OptOutAlike s₁ s₂) :=
  inferInstanceAs (Decidable (∀ p ∈ s₁.inputs, ∀ q ∈ s₂.inputs,
    p.param = q.param → (p.template? .call = some "" ↔ q.template? .header = some "")))

theorem takes_of_optOutAlike (h : s₁.Alike s₂) (hopt : OptOutAlike s₁ s₂) :
    (s₁.params.filter fun p => CallSite.rArguments.takes p).map (·.param) =
      (s₂.params.filter fun p => CallSite.rFormals.takes p).map (·.param) := by
  have htext : ∀ t? : Option String, t?.getD "%I%" ≠ "" ↔ t? ≠ some "" := by
    rintro (_ | t) <;> simp
  refine TypedParam.map_param_filter h.params fun p hp q hq hpq => ?_
  have hreads : p.reads = q.reads := by rw [TypedParam.reads, TypedParam.reads, hpq]
  rw [CallSite.takes, CallSite.takes, hreads]
  by_cases hq' : q.reads
  · have hiff := hopt p (List.mem_filter.mpr ⟨hp, hreads.trans hq'⟩) q (List.mem_filter.mpr ⟨hq, hq'⟩) hpq
    rw [hq', Bool.true_and, Bool.true_and, decide_eq_decide, htext, htext]
    exact not_congr hiff
  · rw [Bool.not_eq_true] at hq'
    rw [hq', Bool.false_and, Bool.false_and]

/-! ### Both together -/

/-- What a function of R and the C code behind it agree on. -/
structure Agree (s₁ s₂ : Signature) (x₁ : Wrapper.Parts) (x₂ : Glue.Parts) : Prop where
  shape : s₁.shape.Same s₂.shape
  /-- The outputs stand in the aggregate in signature order. -/
  assembles : ∀ ps, s₂.shape = .aggregate ps → ps = s₂.orderedOutputs ∧ Glue.Assembles ps x₂.outputs
  /-- What R converts is the place that C gave the name of the same parameter. -/
  converts : ∀ ps, s₂.shape = .aggregate ps → ∀ p ∈ ps, ∃ q ∈ s₁.params, q.param = p.param ∧
    Wrapper.Converts s₁ q ("res$" ++ p.param.displayName) x₁.outputs
  call : CallSite.rArguments.Follows s₁ x₁.call
  formals : CallSite.rFormals.Follows s₂ x₂.formals
  /-- What R passes by position is what C takes by position, if types opt out alike. -/
  positions : OptOutAlike s₁ s₂ →
    (s₁.params.filter fun p => CallSite.rArguments.takes p).map (·.param) =
      (s₂.params.filter fun p => CallSite.rFormals.takes p).map (·.param)

/-- What the two texts show of it. -/
structure Written (s₁ s₂ : Signature) (x₁ : Wrapper.Parts) (x₂ : Glue.Parts) (text₁ text₂ : String) : Prop where
  /-- R passes the arguments, and the lines that convert the outputs follow. -/
  call : Text.contains ("  # Function call\n" ++
    ("  res <- .Call(C_R_" ++ s₁.name ++ ", " ++ ", ".intercalate x₁.call ++ ")\n") ++
    String.join (x₁.outputs.map fun line => "  " ++ line ++ "\n")) text₁
  /-- C takes the formals. -/
  head : Text.contains (" /\n/-------------------------------------------*/\n" ++
    ("SEXP R_" ++ s₂.name ++ "(" ++ ", ".intercalate x₂.formals ++ ")") ++
    " \x7b\n                                        /* Declarations */\n") text₂
  /-- The lines on the outputs are all that C does before it returns the result. -/
  outputs : Text.contains ("\n                                        /* Convert output */\n" ++
    "\n".intercalate (x₂.outputs.map ("  " ++ ·)) ++ "\n\n  UNPROTECT(1);\n  return(result);\n\x7d\n") text₂

variable {x₁ : Wrapper.Parts} {x₂ : Glue.Parts}

theorem written_of_fill {text₂ : String} (docs : String) (h : Glue.skeleton.fill (x₂.fields s₂) = .ok text₂) :
    Written s₁ s₂ x₁ x₂ (docs ++ x₁.layout s₁) text₂ where
  call := Text.contains_append_left docs (x₁.contains_call s₁)
  head := Glue.Parts.contains_head h
  outputs := Glue.Parts.contains_outputs h

/-- The output of the one signature that is an output of the other. -/
theorem exists_output_of_alike (h : s₁.Alike s₂) (hs₁ : s₁.Arranged) {ps : List TypedParam}
    (hshape : s₂.shape = .aggregate ps) {p : TypedParam} (hp : p ∈ ps) :
    ∃ q ∈ s₁.params, q.param = p.param ∧ Wrapper.outputName s₁.shape q = "res$" ++ p.param.displayName := by
  have hsame := h.shape
  have hmem := hs₁.outputs.subset
  rw [hshape] at hsame
  rcases hs₁shape : s₁.shape with _ | _ | qs <;> rw [hs₁shape] at hsame hmem
  · exact absurd hsame id
  · exact absurd hsame id
  · have hpq : p.param ∈ qs.map (·.param) := hsame ▸ List.mem_map_of_mem hp
    obtain ⟨q, hq, hqp⟩ := List.mem_map.mp hpq
    refine ⟨q, (List.mem_filter.mp (List.mem_filter.mp (hmem hq)).1).1, hqp, ?_⟩
    rw [Wrapper.outputName, hqp]

theorem agree_of_alike (h : s₁.Alike s₂) (hs₁ : s₁.Arranged) (hx₁ : x₁.Of s₁) (hx₂ : x₂.Of s₂) : Agree s₁ s₂ x₁ x₂ where
  shape := h.shape
  assembles ps hps := by
    have houtputs := ResultShape.outputs_ofOutputs s₂.orderedOutputs
    rw [← Signature.shape, hps] at houtputs
    exact ⟨houtputs, Glue.assembles_of_outputConversions hps hx₂.outputs⟩
  converts ps hps p hp := by
    obtain ⟨q, hq, hqp, hname⟩ := exists_output_of_alike h hs₁ hps hp
    exact ⟨q, hq, hqp, hname ▸ Wrapper.converts_of_outputConversions hq hx₁.outputs⟩
  call := CallSite.rArguments.follows_of_arguments hx₁.call
  formals := CallSite.rFormals.follows_of_arguments hx₂.formals
  positions := takes_of_optOutAlike h

/-- What the two targets render for a function agrees, whatever types the one and the other know. -/
theorem agree_of_render {files : Files} {r₁ : Run (Option Docs)} {r₂ : Run Unit} {name text₁ text₂ : String}
    (hf : r₁.session.catalog.function? name = r₂.session.catalog.function? name)
    (h₁ : (((Wrapper.target files).render name).run.run r₁).1 = .ok text₁)
    (h₂ : ((Glue.target.render name).run.run r₂).1 = .ok text₂) :
    ∃ s₁ s₂ docs x₁ x₂, Signature.resolve r₁.session.catalog name = .ok s₁ ∧
      Signature.resolve r₂.session.catalog name = .ok s₂ ∧ x₁.Of s₁ ∧ text₁ = docs ++ x₁.layout s₁ ∧
      x₂.Of s₂ ∧ Glue.skeleton.fill (x₂.fields s₂) = .ok text₂ ∧ Agree s₁ s₂ x₁ x₂ ∧
      Written s₁ s₂ x₁ x₂ text₁ text₂ := by
  obtain ⟨s₁, docs, hs₁, x₁, hx₁, rfl⟩ := Wrapper.eq_ok_of_run h₁
  obtain ⟨s₂, hs₂, h₂⟩ := Glue.run_eq_ok_iff.mp h₂
  obtain ⟨x₂, hx₂, h₂⟩ := Glue.render_eq_ok_iff.mp h₂
  obtain ⟨f, -, hf₁⟩ := Signature.resolve_eq_ok_iff.mp hs₁
  have halike := Signature.alike_of_resolve hf hs₁ hs₂
  exact ⟨s₁, s₂, docs, x₁, x₂, hs₁, hs₂, hx₁, rfl, hx₂, h₂,
    agree_of_alike halike (Signature.arranged_of_ofFunction hf₁) hx₁ hx₂, written_of_fill docs h₂⟩

/-- A function with two outputs, and types of which one opts out of everything that R passes. -/
def catalogOf (int : Attr.Tree) : Catalog :=
  { Signature.catalogOf "VOID v, INT a, OUT INT b, OUT INT c" "c, ..." with
    types := [("INT", ⟨"INT", int, .empty⟩), ("VOID", ⟨"VOID", [("CALL", .text ""), ("HEADER", .text "")], .empty⟩)] }

/-- The output `c` comes first in both, and `a` is all that R passes. -/
theorem agree_of_render_two :
    let r₁ : Run (Option Docs) := ⟨.start (catalogOf [("OUTCONV", .text "%I% <- as.integer(%I%)")]) "RR" .default, none⟩
    let r₂ : Run Unit := ⟨.start (catalogOf [("CTYPE", .text "igraph_int_t")]) "RC" .default, ()⟩
    let text₁ := "#' @export\n <- function(a) \x7b\n  # Argument checks\n\n" ++
      "  on.exit( .Call(C_R_igraph_finalizer) )\n  # Function call\n  res <- .Call(C_R_f, a)\n" ++
      "  res$b <- as.integer(res$b)\n  res$c <- as.integer(res$c)\n  res\n\x7d\n\n"
    let text₂ := "\n/*-------------------------------------------/\n/ f                                          /\n" ++
      "/-------------------------------------------*/\nSEXP R_f(SEXP a) \x7b\n" ++
      "                                        /* Declarations */\n  igraph_int_t c_a;\n  igraph_int_t c_b;\n" ++
      "  igraph_int_t c_c;\n  SEXP b;\n  SEXP c;\n  SEXP result, names;\n" ++
      "                                        /* Convert input */\n\n" ++
      "                                        /* Call igraph */\n  f(c_a, c_b, c_c);\n" ++
      "                                        /* Convert output */\n  PROTECT(result=NEW_LIST(2));\n" ++
      "  PROTECT(names=NEW_CHARACTER(2));\n  SET_VECTOR_ELT(result, 0, c);\n  SET_VECTOR_ELT(result, 1, b);\n" ++
      "  SET_STRING_ELT(names, 0, CREATE_STRING_VECTOR(\"c\"));\n" ++
      "  SET_STRING_ELT(names, 1, CREATE_STRING_VECTOR(\"b\"));\n  SET_NAMES(result, names);\n  UNPROTECT(3);\n\n" ++
      "  UNPROTECT(1);\n  return(result);\n\x7d\n"
    (((Wrapper.target .empty).render "f").run.run r₁).1 = .ok text₁ ∧
      ((Glue.target.render "f").run.run r₂).1 = .ok text₂ ∧ ∃ s₁ s₂ x₁ x₂, s₁.shape.keys = ["c", "b"] ∧
        OptOutAlike s₁ s₂ ∧ Agree s₁ s₂ x₁ x₂ ∧ Written s₁ s₂ x₁ x₂ text₁ text₂ := by
  intro r₁ r₂ text₁ text₂
  have hf : r₁.session.catalog.function? "f" = r₂.session.catalog.function? "f" := rfl
  have h₁ : (((Wrapper.target .empty).render "f").run.run r₁).1 = .ok text₁ := by decide +kernel
  have h₂ : ((Glue.target.render "f").run.run r₂).1 = .ok text₂ := by decide +kernel
  obtain ⟨s₁, s₂, -, x₁, x₂, hs₁, hs₂, -, -, -, -, hagree, hwritten⟩ := agree_of_render hf h₁ h₂
  have hboth : (Signature.resolve r₁.session.catalog "f" >>= fun s₁ => (Signature.resolve r₂.session.catalog "f").map
    fun s₂ => (s₁.shape.keys, decide (OptOutAlike s₁ s₂))) = .ok (["c", "b"], true) := by decide +kernel
  rw [hs₁, hs₂] at hboth
  obtain ⟨hkeys, hopt⟩ := Prod.mk.inj (Except.ok.inj hboth)
  exact ⟨h₁, h₂, s₁, s₂, x₁, x₂, hkeys, of_decide_eq_true hopt, hagree, hwritten⟩

end Target.R
end Bindery
