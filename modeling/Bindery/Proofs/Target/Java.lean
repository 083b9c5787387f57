import Bindery.Proofs.Signature
import Bindery.Proofs.Target.Written

/-! # Java and the C code behind it

A native method is declared in Java and implemented in C, each by a target of its own. Which functions can be methods is
a matter of their outputs and of the types that Java has (`ReturnsOne`, `Typed`), and what the one target declares is
what the other implements (`Head`). A parameter that is taken for the ellipsis of `PARAM_ORDER` takes no part. -/

namespace Bindery
namespace Target.Java
variable {s : Signature} {m : Method}

theorem exists_requireType_iff {function : String} {t : TypeInfo} :
    (∃ text, requireType function t = .ok text) ↔ (typeText? t).isSome := by
  rw [requireType]
  split <;> rename_i h <;> simp [h]

theorem requireType_eq_ok_iff {function : String} {t : TypeInfo} {text : String} :
    requireType function t = .ok text ↔ typeText? t = some text := by
  rw [requireType]
  split <;> rename_i h <;> simp [h]

namespace Method

/-! ### The object and the arguments -/

/-- Whether a parameter can be the object: a graph that is only read. -/
def isObject (p : TypedParam) : Bool := p.reads && !p.writes && p.param.type == selfType

/-- The parameters of a method are the inputs but the object, which is the first parameter that can be it. -/
theorem filter_name_eq_eraseP {ps : List TypedParam} (hnodup : (ps.map (·.name)).Nodup) (isObject : TypedParam → Bool) :
    ps.filter (fun p => !(ps.find? isObject).any fun self => self.name == p.name) = ps.eraseP isObject := by
  induction ps with
  | nil => rfl
  | cons p ps ih =>
    rw [List.map_cons, List.nodup_cons] at hnodup
    by_cases hp : isObject p
    · have hother : ∀ q ∈ ps, p.name ≠ q.name := fun q hq heq => hnodup.1 (heq ▸ List.mem_map_of_mem hq)
      rw [List.find?_cons_of_pos hp, List.eraseP_cons_of_pos hp, List.filter_cons_of_neg (by simp)]
      exact List.filter_eq_self.mpr fun q hq => by simpa using hother q hq
    · rw [List.find?_cons_of_neg hp, List.eraseP_cons_of_neg hp, List.filter_cons_of_pos, ih hnodup.2]
      rcases hfind : ps.find? isObject with _ | self
      · rfl
      · have hself := List.mem_of_find?_eq_some hfind
        have hne : self.name ≠ p.name := fun heq => hnodup.1 (heq ▸ List.mem_map_of_mem hself)
        simpa using hne

theorem selfAmong?_eq : selfAmong? s = s.orderedInputs.find? isObject := by
  have hobject : (fun p : TypedParam => decide (p.reads = true ∧ isObject p = true)) = isObject := by
    funext p
    rw [Bool.eq_iff_iff, decide_eq_true_eq, and_iff_right_iff_imp, isObject, Bool.and_eq_true, Bool.and_eq_true]
    exact fun h => h.1.1
  rw [Signature.orderedInputs, List.find?_filter, hobject]
  rfl

theorem taken_eq_eraseP (hs : s.Arranged) : taken s = s.orderedInputs.eraseP isObject := by
  rw [taken, selfAmong?_eq]
  exact filter_name_eq_eraseP (hs.nodup_ordered.sublist (List.filter_sublist.map _)) isObject

/-! ### The outputs -/

/-- At most one output is returned, and all others may be left out. -/
def ReturnsOne (s : Signature) (outputs : List TypedParam) : Prop :=
  (∀ p ∈ s.params, ¬p.param.primary) ∧ outputs.length ≤ 1 ∨
    (∃ p ∈ s.params, p.param.primary) ∧ (outputs.filter fun p => p.param.primary).length ≤ 1 ∧
      ∀ p ∈ outputs, ¬p.param.primary → p.param.optional

theorem returnedAmong_eq_ok_iff {ps returned : List TypedParam} :
    returnedAmong s ps = .ok returned ↔
      returned = ps.filter (isReturned s) ∧ ∀ p ∈ ps, ¬isReturned s p → p.param.optional := by
  induction ps generalizing returned with
  | nil =>
    rw [returnedAmong, Except.ok.injEq, List.filter_nil]
    exact ⟨fun h => ⟨h.symm, fun _ hp => nomatch hp⟩, fun h => h.1.symm⟩
  | cons p ps ih =>
    rw [returnedAmong, List.forall_mem_cons]
    by_cases hp : isReturned s p
    · rw [if_pos hp, map_eq_ok_iff, List.filter_cons_of_pos hp]
      simp only [ih, hp, not_true_eq_false, false_imp_iff, true_and]
      constructor
      · rintro ⟨_, ⟨rfl, hrest⟩, rfl⟩
        exact ⟨rfl, hrest⟩
      · rintro ⟨rfl, hrest⟩
        exact ⟨_, ⟨rfl, hrest⟩, rfl⟩
    · rw [if_neg hp, List.filter_cons_of_neg hp]
      by_cases hopt : p.param.optional
      · rw [if_pos hopt, ih]
        simp [hopt]
      · rw [if_neg hopt]
        simp [hp, hopt]

theorem returnedOutput?_eq_ok_iff {p? : Option TypedParam} :
    returnedOutput? s = .ok p? ↔ s.orderedOutputs.filter (isReturned s) = p?.toList ∧
      ∀ p ∈ s.orderedOutputs, ¬isReturned s p → p.param.optional := by
  simp only [returnedOutput?, bind_eq_ok_iff, returnedAmong_eq_ok_iff]
  constructor
  · rintro ⟨_, ⟨rfl, hothers⟩, h⟩
    refine ⟨?_, hothers⟩
    split at h <;> rename_i heq
    · cases h
      exact heq
    · cases h
      exact heq
    · cases h
  · rintro ⟨hreturned, hothers⟩
    refine ⟨_, ⟨rfl, hothers⟩, ?_⟩
    rw [hreturned]
    cases p? <;> rfl

theorem isReturned_iff {p : TypedParam} : isReturned s p ↔ p.param.primary ∨ ∀ q ∈ s.params, ¬q.param.primary := by
  simp [isReturned]

theorem exists_returnedOutput?_iff : (∃ p?, returnedOutput? s = .ok p?) ↔ ReturnsOne s s.orderedOutputs := by
  have hone : ∀ ps : List TypedParam, (∃ p? : Option TypedParam, ps = p?.toList) ↔ ps.length ≤ 1 := by
    rintro (_ | ⟨p, _ | ⟨q, ps⟩⟩)
    · exact iff_of_true ⟨none, rfl⟩ (Nat.zero_le 1)
    · exact iff_of_true ⟨some p, rfl⟩ (Nat.le_refl 1)
    · refine iff_of_false ?_ (by simp)
      rintro ⟨_ | r, h⟩ <;> cases h
  simp only [returnedOutput?_eq_ok_iff, exists_and_right, hone, ReturnsOne]
  by_cases hprimary : ∃ p ∈ s.params, p.param.primary
  · have hreturned : isReturned s = fun p => p.param.primary := by
      funext p
      rw [Bool.eq_iff_iff, isReturned_iff, or_iff_left]
      rintro hnone
      obtain ⟨q, hq, hqprimary⟩ := hprimary
      exact hnone q hq hqprimary
    have hsome : ¬∀ p ∈ s.params, ¬p.param.primary := by simpa using hprimary
    simp only [hreturned, hsome, hprimary, false_and, false_or, true_and]
  · have hnone : ∀ p ∈ s.params, ¬p.param.primary := by simpa using hprimary
    have hreturned : ∀ p, isReturned s p := fun p => isReturned_iff.mpr (.inr hnone)
    have hall : s.orderedOutputs.filter (isReturned s) = s.orderedOutputs :=
      List.filter_eq_self.mpr fun p _ => hreturned p
    simp only [hall, hreturned, hprimary, not_true_eq_false, false_imp_iff, implies_true, and_true, false_and, or_false]
    exact (and_iff_right hnone).symm

theorem returnsOne_congr {outputs₁ outputs₂ : List TypedParam} (h : outputs₁.Perm outputs₂) :
    ReturnsOne s outputs₁ ↔ ReturnsOne s outputs₂ := by
  simp only [ReturnsOne, h.length_eq, (h.filter _).length_eq, h.mem_iff]

/-! ### The types -/

/-- Every argument has a type of Java, and so does the output that is returned. -/
structure Typed (s : Signature) (outputs : List TypedParam) : Prop where
  arguments : ∀ p ∈ s.orderedInputs.eraseP isObject, (typeText? p.type).isSome
  returned : ∀ p ∈ outputs, (p.param.primary ∨ ∀ q ∈ s.params, ¬q.param.primary) → (typeText? p.type).isSome

theorem typed_congr {outputs₁ outputs₂ : List TypedParam} (h : outputs₁.Perm outputs₂) :
    Typed s outputs₁ ↔ Typed s outputs₂ :=
  ⟨fun ht => ⟨ht.arguments, fun p hp => ht.returned p (h.mem_iff.mpr hp)⟩,
    fun ht => ⟨ht.arguments, fun p hp => ht.returned p (h.mem_iff.mp hp)⟩⟩

theorem ofSignature_eq_ok_iff :
    ofSignature s = .ok m ↔ returnedOutput? s = .ok m.returned? ∧
      (taken s).mapM (fun p => (requireType s.name p.type).map fun t => (t, p)) = .ok m.arguments ∧
      resultType? s m.returned? = .ok m.returnType? ∧ m.self? = selfAmong? s ∧
      m.name = if (selfAmong? s).isSome then baseName s.function else Text.capitalize (baseName s.function) := by
  simp only [ofSignature, bind_eq_ok_iff, pure_eq_ok_iff]
  constructor
  · rintro ⟨_, hreturned, _, harguments, _, htype, rfl⟩
    exact ⟨hreturned, harguments, htype, rfl, rfl⟩
  · rintro ⟨hreturned, harguments, htype, hself, hname⟩
    refine ⟨_, hreturned, _, harguments, _, htype, ?_⟩
    rw [← hname, ← hself]

theorem exists_resultType?_iff {p? : Option TypedParam} :
    (∃ type?, resultType? s p? = .ok type?) ↔ ∀ p ∈ p?.toList, (typeText? p.type).isSome := by
  cases p? with
  | none => exact iff_of_true ⟨_, rfl⟩ fun _ hp => nomatch hp
  | some p =>
    rw [Option.toList_some, List.forall_mem_singleton, ← exists_requireType_iff]
    simp only [resultType?, map_eq_ok_iff]
    exact ⟨fun ⟨_, t, ht, _⟩ => ⟨t, ht⟩, fun ⟨t, ht⟩ => ⟨_, t, ht, rfl⟩⟩

/-- Which functions can be methods. -/
theorem exists_ofSignature_iff (hs : s.Arranged) :
    (∃ m, ofSignature s = .ok m) ↔ ReturnsOne s s.orderedOutputs ∧ Typed s s.orderedOutputs := by
  have harguments : (∃ arguments, (taken s).mapM (fun p => (requireType s.name p.type).map fun t => (t, p)) =
      .ok arguments) ↔ ∀ p ∈ s.orderedInputs.eraseP isObject, (typeText? p.type).isSome := by
    rw [exists_mapM_eq_ok_iff, taken_eq_eraseP hs]
    refine forall₂_congr fun p _ => ?_
    rw [← exists_requireType_iff]
    simp only [map_eq_ok_iff]
    exact ⟨fun ⟨_, t, ht, _⟩ => ⟨t, ht⟩, fun ⟨t, ht⟩ => ⟨_, t, ht, rfl⟩⟩
  have hresult : ∀ p?, returnedOutput? s = .ok p? → ((∃ type?, resultType? s p? = .ok type?) ↔
      ∀ p ∈ s.orderedOutputs, (p.param.primary ∨ ∀ q ∈ s.params, ¬q.param.primary) → (typeText? p.type).isSome) := by
    intro p? hp?
    rw [exists_resultType?_iff, ← (returnedOutput?_eq_ok_iff.mp hp?).1]
    simp only [List.mem_filter, isReturned_iff, and_imp]
  rw [← exists_returnedOutput?_iff]
  constructor
  · rintro ⟨m, hm⟩
    obtain ⟨hreturned, hargs, htype, -, -⟩ := ofSignature_eq_ok_iff.mp hm
    exact ⟨⟨_, hreturned⟩, harguments.mp ⟨_, hargs⟩, (hresult _ hreturned).mp ⟨_, htype⟩⟩
  · rintro ⟨⟨returned?, hreturned⟩, htyped⟩
    obtain ⟨arguments, hargs⟩ := harguments.mpr htyped.arguments
    obtain ⟨type?, htype⟩ := (hresult _ hreturned).mpr htyped.returned
    exact ⟨⟨_, _, returned?, type?, arguments⟩, ofSignature_eq_ok_iff.mpr ⟨hreturned, hargs, htype, rfl, rfl⟩⟩

end Method

/-! ### Declaration and implementation -/

/-- What the declaration of a method and its implementation have in common. -/
structure Head where
  /-- The object; a static method has none. -/
  object? : Option String
  result : String
  name : String
  arguments : List String

namespace Head

/-- The declaration in Java. -/
def declaration (h : Head) : String :=
  let modifiers := if h.object?.isNone then "public static native" else "public native"
  let arguments := ", ".intercalate h.arguments
  s!"    {modifiers} {h.result} {h.name}({arguments});\n"

/-- The head of the function of C. -/
def implementation (h : Head) : String :=
  let receiver := match h.object? with
    | some object => "jobject " ++ object
    | none => "jclass cls"
  let path := "net_sf_igraph_Graph"
  let arguments := ", ".intercalate ("JNIEnv *env" :: receiver :: h.arguments)
  s!"JNIEXPORT {h.result} JNICALL Java_{path}_{h.name}({arguments})"

/-- The first input that can be the object is the object. The arguments are all other inputs in signature order, each
with its type. -/
structure Of (h : Head) (s : Signature) : Prop where
  object : h.object? = (s.orderedInputs.find? Method.isObject).map fun p => camelCase p.name
  arguments : List.Forall₂ (fun p text => ∃ t, typeText? p.type = some t ∧ text = s!"{t} {camelCase p.name}")
    (s.orderedInputs.eraseP Method.isObject) h.arguments

/-- The head of a method. -/
def ofMethod (m : Method) : Head := ⟨m.self?.map fun p => camelCase p.name, m.returnText, m.name, m.argumentTexts⟩

theorem declaration_ofMethod (m : Method) : Class.declaration m = (ofMethod m).declaration := by
  have hjoin := Text.commaJoin_eq_intercalate m.argumentTexts
  rcases m with ⟨name, _ | self, returned?, returnType?, arguments⟩ <;>
    exact congrArg (fun arguments => _ ++ arguments ++ ");\n") hjoin

theorem implementation_ofMethod (m : Method) : Glue.header m = (ofMethod m).implementation := by
  have hjoin := fun receiver => Text.commaJoin_eq_intercalate ("JNIEnv *env" :: receiver :: m.argumentTexts)
  rcases m with ⟨name, _ | self, returned?, returnType?, arguments⟩ <;>
    exact congrArg (fun arguments => _ ++ arguments ++ ")") (hjoin _)

theorem of_ofSignature (hs : s.Arranged) (h : Method.ofSignature s = .ok m) : (ofMethod m).Of s := by
  obtain ⟨-, harguments, -, hself, -⟩ := Method.ofSignature_eq_ok_iff.mp h
  rw [Method.taken_eq_eraseP hs] at harguments
  refine ⟨by rw [ofMethod, hself, Method.selfAmong?_eq], List.forall₂_map_right_iff.mpr ?_⟩
  refine (mapM_eq_ok_iff_forall₂.mp harguments).imp fun p argument hp => ?_
  obtain ⟨t, ht, rfl⟩ := map_eq_ok_iff.mp hp
  exact ⟨t, requireType_eq_ok_iff.mp ht, rfl⟩

end Head

/-- The declared outputs, but for one that is taken for the ellipsis. -/
def outputs (s : Signature) : List TypedParam :=
  (s.params.filter TypedParam.writes).filter fun p => ¬s.function.hides p.name

/-- What the declaration of a function and its implementation agree on. -/
structure Agree (s : Signature) (declared implemented : Except Error String) : Prop where
  inputs : s.orderedInputs.Perm (s.inputs.filter fun p => ¬s.function.hides p.name)
  inputs_iff : s.orderedInputs.Perm s.inputs ↔ ∀ p ∈ s.inputs, ¬s.function.hides p.name
  declares_iff : (∃ text, declared = .ok text) ↔ Method.ReturnsOne s (outputs s) ∧ Method.Typed s (outputs s)
  declares : ∀ text, declared = .ok text → ∃ h : Head, h.Of s ∧ text = h.declaration
  implements : ∀ text, implemented = .ok text → ∃ h : Head, h.Of s ∧ declared = .ok h.declaration ∧
    (∃ fields, Glue.skeleton.fill fields = .ok text ∧ Entries.get? fields "header" = some h.implementation) ∧
    Text.contains (" /\n/-------------------------------------------*/\n" ++ h.implementation ++
      " \x7b\n                                        /* Declarations */\n") text

theorem agree_of_arranged (hs : s.Arranged) : Agree s (Class.render s) (Glue.render s) where
  inputs := hs.inputs
  inputs_iff := hs.inputs_iff
  declares_iff := by
    have houtputs : s.orderedOutputs.Perm (outputs s) := by
      rw [← ResultShape.outputs_ofOutputs s.orderedOutputs]
      exact hs.outputs
    rw [← Method.returnsOne_congr houtputs, ← Method.typed_congr houtputs, ← Method.exists_ofSignature_iff hs]
    simp only [Class.render_eq_ok_iff]
    exact ⟨fun ⟨_, m, hm, _⟩ => ⟨m, hm⟩, fun ⟨m, hm⟩ => ⟨_, m, hm, rfl⟩⟩
  declares text h := by
    obtain ⟨m, hm, rfl⟩ := Class.render_eq_ok_iff.mp h
    exact ⟨.ofMethod m, Head.of_ofSignature hs hm, Head.declaration_ofMethod m⟩
  implements text h := by
    obtain ⟨x, hx, hfill⟩ := Glue.render_eq_ok_iff.mp h
    refine ⟨.ofMethod x.method, Head.of_ofSignature hs hx.method, ?_, ⟨x.fields s, hfill, ?_⟩, ?_⟩
    · exact Class.render_eq_ok_iff.mpr ⟨_, hx.method, Head.declaration_ofMethod _⟩
    · rw [← Head.implementation_ofMethod]
      rfl
    · rw [← Head.implementation_ofMethod]
      exact Glue.Parts.contains_head hfill

/-- What the two targets render for a function agrees, if its parameters and their order can be derived and all types
are known. -/
theorem agree_of_resolves {r₁ r₂ : Run Unit} (hcatalog : r₂.session.catalog = r₁.session.catalog) {name : String}
    (h : r₁.session.catalog.Resolves name) :
    ∃ s, Signature.resolve r₁.session.catalog name = .ok s ∧ s.function.Declares (s.params.map (·.param.declared)) ∧
      Agree s ((Class.target.render name).run.run r₁).1 ((Glue.target.render name).run.run r₂).1 := by
  obtain ⟨s, hs⟩ := Signature.exists_resolve_iff.mpr h
  obtain ⟨f, -, hf⟩ := Signature.resolve_eq_ok_iff.mp hs
  have harranged := Signature.arranged_of_ofFunction hf
  have hclass : ((Class.target.render name).run.run r₁).1 = Class.render s :=
    Gen.run_ofSignature_of_resolve hs Class.render
  have hglue : ((Glue.target.render name).run.run r₂).1 = Glue.render s :=
    Gen.run_ofSignature_of_resolve (hcatalog ▸ hs) Glue.render
  have hagree : ∀ {declared implemented}, declared = Class.render s → implemented = Glue.render s →
      Agree s declared implemented := by
    rintro _ _ rfl rfl
    exact agree_of_arranged harranged
  exact ⟨s, hs, harranged.declares, hagree hclass hglue⟩

/-- Types that Java has. -/
def catalogOf (params order : String) : Catalog :=
  { Signature.catalogOf params order with
    types := [("INT", ⟨"INT", [("JAVATYPE", .text "long")], .empty⟩), ("GRAPH", .new "GRAPH")] }

/-- The output that is primary is returned, and the graph is the object. -/
theorem agree_of_resolves_primary :
    let r : Run Unit := ⟨.start (catalogOf "GRAPH graph, INT n, PRIMARY OUT INT a, OPTIONAL OUT INT b" "n, ...") "JavaC"
      .default, ()⟩
    let text := "\n/*-------------------------------------------/\n/ f                                          /\n" ++
      "/-------------------------------------------*/\n" ++
      "JNIEXPORT long JNICALL Java_net_sf_igraph_Graph_f(JNIEnv *env, jobject graph, long n) \x7b\n" ++
      "                                        /* Declarations */\n  long j_a;\n  long j_b;\n  long result;\n\n" ++
      "  Java_igraph_before();\n                                        /* Convert input */\n\n" ++
      "                                        /* Call igraph */\n  if ((*env)->ExceptionCheck(env)) \x7b\n" ++
      "    c__result = IGRAPH_EINVAL;\n  \x7d else \x7b\n    c__result = f(c_graph, c_n, c_a, c_b);\n  \x7d\n" ++
      "                                        /* Convert output */\n  if (c__result == 0) \x7b\n" ++
      "    result = j_a;\n  \x7d else \x7b\n    result = 0;\n  \x7d\n\n" ++
      "  Java_igraph_after();\n\n  return result;\n\x7d\n"
    r.session.catalog.Resolves "f" ∧
      ((Class.target.render "f").run.run r).1 = .ok "    public native long f(long n);\n" ∧
      ((Glue.target.render "f").run.run r).1 = .ok text ∧
      ∃ s, Agree s ((Class.target.render "f").run.run r).1 ((Glue.target.render "f").run.run r).1 := by
  intro r text
  obtain ⟨s₀, hs₀, -⟩ := map_eq_ok_iff.mp (show
    (Signature.resolve r.session.catalog "f").map (fun _ => ()) = .ok () by decide +kernel)
  have hresolves := Signature.exists_resolve_iff.mp ⟨s₀, hs₀⟩
  obtain ⟨s, -, -, hagree⟩ := @agree_of_resolves r r rfl "f" hresolves
  exact ⟨hresolves, by decide +kernel, by decide +kernel, s, hagree⟩

/-- The method does not take the only parameter that the function reads. -/
theorem declaration_drops_argument :
    let r : Run Unit := ⟨.start (catalogOf "INT ..." "...") "JavaJava" .default, ()⟩
    r.session.catalog.Resolves "f" ∧ (∃ s, Signature.resolve r.session.catalog "f" = .ok s ∧
      s.inputs.map (fun p => (p.name, typeText? p.type)) = [("...", some "long")] ∧ ¬s.orderedInputs.Perm s.inputs) ∧
      ((Class.target.render "f").run.run r).1 = .ok "    public static native long F();\n" := by
  intro r
  have hresolve : (Signature.resolve r.session.catalog "f").map (fun s =>
      (s.inputs.map fun p => (p.name, typeText? p.type), s.orderedInputs.length)) =
      .ok ([("...", some "long")], 0) := by decide +kernel
  obtain ⟨s, hs, hboth⟩ := map_eq_ok_iff.mp hresolve
  obtain ⟨hinputs, hlength⟩ := Prod.mk.inj hboth
  refine ⟨Signature.exists_resolve_iff.mp ⟨s, hs⟩, ⟨s, hs, hinputs, fun hperm => ?_⟩, by decide +kernel⟩
  have hone := congrArg List.length hinputs
  rw [List.length_map, ← hperm.length_eq, hlength] at hone
  cases hone

end Target.Java
end Bindery
