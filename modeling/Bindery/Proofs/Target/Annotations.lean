import Bindery.Proofs.Signature
import Bindery.Proofs.Target.Parts
import Bindery.Proofs.Template.Filling
import Bindery.Proofs.Text.Contains

/-! # Annotated functions of Python

The typed wrapper of a function takes what the function reads, in signature order, and returns what the library returns
and what the function only writes, in the order of declaration. Arguments and values have their annotations in the same
order (`Wrapper.annotated_of_render`); how the text is made of them is said line by line (`Parts.lines`). Where all
types have what the wrapper needs of them, one thing is left that can go wrong: an argument without a default behind one
that has a default. -/

namespace Bindery.Target.Python.Wrapper

/-! ### Arguments -/

/-- No parameter without a default stands behind one that has a default. -/
def RequiredFirst (ps : List TypedParam) : Prop :=
  ps.Pairwise fun p q => p.param.default.isSome → q.param.default.isSome

/-- A text is the argument that a parameter becomes. -/
def Argument (p : TypedParam) (text : String) : Prop :=
  ∃ type, p.type.text? "PY_TYPE" = some type ∧ text = match p.param.default with
    | some d => s!"{paramName p.name}: {type} = {p.type.translateDefault d}"
    | none => s!"{paramName p.name}: {type}"

variable {s : Signature} {p : TypedParam} {ps : List TypedParam} {function text : String} {texts : List String}

theorem requireType_eq_ok_iff {t : TypeInfo} : requireType function t = .ok text ↔ t.text? "PY_TYPE" = some text := by
  rw [requireType]
  cases t.text? "PY_TYPE" <;> simp

theorem requiredFirst_cons_of_some {d : String} (h : p.param.default = some d) :
    RequiredFirst (p :: ps) ↔ (∀ q ∈ ps, q.param.default.isSome) ∧ RequiredFirst ps := by
  simp [RequiredFirst, h]

theorem requiredFirst_cons_of_none (h : p.param.default = none) : RequiredFirst (p :: ps) ↔ RequiredFirst ps := by
  simp [RequiredFirst, h]

theorem not_requiredFirst_iff : ¬RequiredFirst ps ↔
    ∃ p q, [p, q].Sublist ps ∧ p.param.default.isSome ∧ q.param.default = none := by
  rw [RequiredFirst, List.pairwise_iff_forall_sublist]
  simp only [not_forall, exists_prop, Option.not_isSome_iff_eq_none]

/-- Once an argument with a default has come, all that follow need one. -/
theorem parameterTexts_eq_ok_iff {defaulted : Bool} : parameterTexts s defaulted ps = .ok texts ↔
    List.Forall₂ Argument ps texts ∧ RequiredFirst ps ∧ (defaulted = true → ∀ p ∈ ps, p.param.default.isSome) := by
  induction ps generalizing defaulted texts with
  | nil =>
    rw [parameterTexts, Except.ok.injEq, List.forall₂_nil_left_iff, eq_comm]
    exact (and_iff_left ⟨List.Pairwise.nil, fun _ _ hp => absurd hp List.not_mem_nil⟩).symm
  | cons p ps ih =>
    simp only [parameterTexts, bind_eq_ok_iff, requireType_eq_ok_iff, List.forall₂_cons_left_iff, List.forall_mem_cons]
    cases hdefault : p.param.default with
    | some d =>
      simp only [bind_eq_ok_iff, pure_eq_ok_iff, ih, requiredFirst_cons_of_some hdefault, Argument, hdefault]
      constructor
      · rintro ⟨type, htype, texts, ⟨hall, hfirst, hdefaults⟩, rfl⟩
        have hdefaults := hdefaults trivial
        exact ⟨⟨_, texts, ⟨type, htype, rfl⟩, hall, rfl⟩, ⟨hdefaults, hfirst⟩, fun _ => ⟨rfl, hdefaults⟩⟩
      · rintro ⟨⟨_, texts, ⟨type, htype, rfl⟩, hall, rfl⟩, ⟨hdefaults, hfirst⟩, -⟩
        exact ⟨type, htype, texts, ⟨hall, hfirst, fun _ => hdefaults⟩, rfl⟩
    | none =>
      simp only [requiredFirst_cons_of_none hdefault, Argument, hdefault]
      -- It is refused if one with a default has come, and the list is not in order then.
      cases defaulted with
      | true =>
        refine iff_of_false ?_ ?_
        · rintro ⟨_, _, h⟩
          cases h
        · rintro ⟨-, -, h⟩
          cases (h rfl).1
      | false =>
        simp only [Bool.false_eq_true, if_false, false_imp_iff, and_true, bind_eq_ok_iff, pure_eq_ok_iff, ih]
        constructor
        · rintro ⟨type, htype, texts, ⟨hall, hfirst⟩, rfl⟩
          exact ⟨⟨_, texts, ⟨type, htype, rfl⟩, hall, rfl⟩, hfirst⟩
        · rintro ⟨⟨_, texts, ⟨type, htype, rfl⟩, hall, rfl⟩, hfirst⟩
          exact ⟨type, htype, texts, ⟨hall, hfirst⟩, rfl⟩

/-! ### Values -/

/-- A value that the wrapper returns. -/
inductive Returned where
  /-- What the library returns. -/
  | result (t : TypeInfo)
  /-- What it writes to a parameter. -/
  | output (p : TypedParam)

namespace Returned

def type : Returned → TypeInfo
  | result t => t
  | output p => p.type

def expression : Returned → String
  | result _ => "c__result"
  | output p => paramName p.name

end Returned

/-- The values that the wrapper of a function returns: what the library returns, unless that is an error code or
nothing, and then the parameters that are only written, in the order of declaration. -/
def values (s : Signature) : List Returned :=
  (if s.returnType.name = "ERROR" ∨ s.returnType.name = "VOID" then [] else [.result s.returnType]) ++
    (s.params.filter TypedParam.onlyWritten).map .output

theorem onlyWritten_eq_not_reads (p : TypedParam) : p.onlyWritten = !p.reads := by
  rw [TypedParam.onlyWritten, TypedParam.reads, Param.reads]
  cases p.param.mode <;> rfl

theorem returnsValue_eq_false_iff :
    returnsValue s = false ↔ s.returnType.name = "ERROR" ∨ s.returnType.name = "VOID" := by
  simp [returnsValue, Function.defaultReturnType, or_iff_not_imp_left]

theorem values_eq : values s =
    (if returnsValue s then [.result s.returnType] else []) ++ (returnedParams s).map .output := by
  have hparams : s.params.filter TypedParam.onlyWritten = returnedParams s :=
    List.filter_congr fun p _ => onlyWritten_eq_not_reads p
  rw [values, hparams]
  cases hreturns : returnsValue s with
  | true =>
    have hnot : ¬(s.returnType.name = "ERROR" ∨ s.returnType.name = "VOID") := by
      simp [← returnsValue_eq_false_iff, hreturns]
    rw [if_neg hnot, if_pos rfl]
  | false =>
    rw [if_pos (returnsValue_eq_false_iff.mp hreturns), if_neg Bool.false_ne_true]

theorem returnedTypes_eq : returnedTypes s = (values s).map Returned.type := by
  rw [values_eq, returnedTypes, List.map_append, List.map_map]
  cases returnsValue s <;> rfl

theorem returnedNames_eq : returnedNames s = (values s).map Returned.expression := by
  rw [values_eq, returnedNames, List.map_append, List.map_map]
  cases returnsValue s <;> rfl

/-- Where there are no values nothing is returned. -/
theorem returnLines_eq : returnLines s =
    if values s = [] then [] else ["return " ++ Text.commaJoin ((values s).map Returned.expression)] := by
  simp only [returnLines, returnedNames_eq, List.map_eq_nil_iff]

/-! ### The text -/

/-- The annotation of what is returned: `None`, the only type or a tuple. -/
def annotationText : List String → String
  | [] => "None"
  | [type] => type
  | types => "Tuple[" ++ ", ".intercalate types ++ "]"

/-- The lines of a wrapper with the given parts. The head has the arguments and the annotation; the last line returns
the values, if there are any. -/
def Parts.lines (x : Parts) (s : Signature) : List String :=
  ["",
    "def " ++ functionName s.function ++ "(" ++ ", ".intercalate x.parameters ++ ") -> " ++ annotationText x.types ++
      ":",
    "    \"\"\"Type-annotated wrapper for ``" ++ s.name ++ "``.\"\"\""] ++
    (if x.inputs = [] then [] else "    # Prepare input arguments" :: x.inputs.map ("    " ++ ·) ++ [""]) ++
    ["    # Call wrapped function", "    " ++ callLine s] ++
    (if x.outputs = [] then [] else ["", "    # Prepare output arguments"] ++ x.outputs.map ("    " ++ ·)) ++
    if values s = [] then [] else
      ["", "    # Construct return value", "    return " ++ ", ".intercalate ((values s).map Returned.expression)]

theorem resultAnnotation_eq (types : List String) : resultAnnotation types = annotationText types := by
  rcases types with _ | ⟨type, _ | ⟨type', types⟩⟩
  · rfl
  · rfl
  · exact congrArg (fun text => "Tuple[" ++ text ++ "]") (Text.commaJoin_eq_intercalate _)

theorem part_returnLines_eq : part [""] "Construct return value" (returnLines s) [] = if values s = [] then [] else
    ["", "    # Construct return value", "    return " ++ ", ".intercalate ((values s).map Returned.expression)] := by
  rw [part, returnLines_eq, ← Text.commaJoin_eq_intercalate]
  by_cases h : values s = []
  · rw [if_pos h, if_pos h, if_pos rfl]
  · rw [if_neg h, if_neg h, if_neg (List.cons_ne_nil _ _)]
    exact congrArg (fun line => ["", "    # Construct return value", line]) String.append_assoc.symm

theorem Parts.lines_eq (x : Parts) (s : Signature) :
    x.lines s = x.front s ++ body ["# Call wrapped function", callLine s] ++ x.back s := by
  have hinputs : part [] "Prepare input arguments" x.inputs [""] =
      if x.inputs = [] then [] else "    # Prepare input arguments" :: x.inputs.map ("    " ++ ·) ++ [""] := by
    rw [part]
    rfl
  have houtputs : part [""] "Prepare output arguments" x.outputs [] =
      if x.outputs = [] then [] else ["", "    # Prepare output arguments"] ++ x.outputs.map ("    " ++ ·) := by
    rw [part, List.append_nil]
    rfl
  have hhead : s!"def {functionName s.function}({Text.commaJoin x.parameters}) -> {resultAnnotation x.types}:" =
      "def " ++ functionName s.function ++ "(" ++ ", ".intercalate x.parameters ++ ") -> " ++ annotationText x.types ++
        ":" := by
    rw [Text.commaJoin_eq_intercalate, resultAnnotation_eq]
    rfl
  have hdocs : body [s!"\"\"\"Type-annotated wrapper for ``{s.name}``.\"\"\""] =
      ["    \"\"\"Type-annotated wrapper for ``" ++ s.name ++ "``.\"\"\""] := by
    refine congrArg (fun line => [line]) (String.append_assoc.symm.trans ?_)
    exact congrArg (· ++ "``.\"\"\"") String.append_assoc.symm
  rw [lines, front, back, hinputs, houtputs, part_returnLines_eq, hhead, hdocs, ← List.append_assoc]
  rfl

theorem Parts.layout_eq (x : Parts) (s : Signature) : x.layout s = "\n" ++ "\n".intercalate (x.lines s) ++ "\n" := by
  rw [Parts.layout, lines_eq, Text.joinWith_eq_intercalate]

/-! ### What a wrapper needs -/

theorem resolves_empty (x : Template.Substitution) : x.Resolves "" :=
  Template.Substitution.exists_fill_iff.mp ⟨"", rfl⟩

theorem exists_inputLine_iff : (∃ line?, inputLine? s p = .ok line?) ↔
    (inputTemplate p = "" → p.reads = true) ∧ (s.substitution naming p).Resolves (inputTemplate p) := by
  rw [inputLine?]
  by_cases hempty : inputTemplate p = ""
  · simp only [hempty, ne_eq, not_true_eq_false, if_false, true_imp_iff, resolves_empty, and_true]
    cases p.reads <;> simp
  · simp only [ne_eq, hempty, not_false_eq_true, if_true, false_imp_iff, true_and, map_eq_ok_iff,
      ← Template.Substitution.exists_fill_iff]
    exact ⟨fun ⟨_, text, htext, _⟩ => ⟨text, htext⟩, fun ⟨text, htext⟩ => ⟨_, text, htext, rfl⟩⟩

theorem exists_inputLines_iff : (∃ lines, inputLines s = .ok lines) ↔ ∀ p ∈ s.params,
    (inputTemplate p = "" → p.reads = true) ∧ (s.substitution naming p).Resolves (inputTemplate p) := by
  simp only [inputLines, map_eq_ok_iff]
  rw [← forall₂_congr fun p _ => exists_inputLine_iff, ← exists_mapM_eq_ok_iff]
  exact ⟨fun ⟨_, lines, hlines, _⟩ => ⟨lines, hlines⟩, fun ⟨lines, hlines⟩ => ⟨_, lines, hlines, rfl⟩⟩

theorem exists_outputLines_iff : (∃ lines, outputLines s = .ok lines) ↔
    ∀ p ∈ s.params, (s.substitution naming p).Resolves (outputTemplate p) := by
  rw [outputLines, Signature.fillAll, exists_mapM_eq_ok_iff]
  simp only [Signature.fill, Template.Substitution.exists_fill_iff, List.mem_filter, decide_eq_true_eq, and_imp]
  refine forall₂_congr fun p _ => ⟨fun h => ?_, fun h _ => h⟩
  by_cases hempty : outputTemplate p = ""
  · rw [hempty]
    exact resolves_empty _
  · exact h hempty

/-- The types of a function have what its wrapper needs of them. A value that is only written must be constructed, and
the templates must leave nothing open. -/
structure Complete (s : Signature) : Prop where
  typed : ∀ p ∈ s.params, (p.type.text? "PY_TYPE").isSome
  returned : ∀ v ∈ values s, (v.type.text? "PY_TYPE").isSome
  constructed : ∀ p ∈ s.params, p.onlyWritten → ∃ t, p.template? .inConv = some t ∧ t ≠ ""
  inputs : ∀ p ∈ s.params, (s.substitution naming p).Resolves (inputTemplate p)
  outputs : ∀ p ∈ s.params, (s.substitution naming p).Resolves (outputTemplate p)

theorem constructed_iff : (inputTemplate p = "" → p.reads = true) ↔
    (p.onlyWritten = true → ∃ t, p.template? .inConv = some t ∧ t ≠ "") := by
  rw [onlyWritten_eq_not_reads, inputTemplate]
  cases p.reads <;> cases p.template? .inConv <;> simp

theorem exists_requireType_iff {t : TypeInfo} :
    (∃ text, requireType function t = .ok text) ↔ (t.text? "PY_TYPE").isSome := by
  simp only [requireType_eq_ok_iff, Option.isSome_iff_exists]

theorem exists_signatureTexts_iff (htyped : ∀ p ∈ s.orderedInputs, (p.type.text? "PY_TYPE").isSome) :
    (∃ texts, signatureTexts s = .ok texts) ↔ RequiredFirst s.orderedInputs := by
  simp only [signatureTexts, parameterTexts_eq_ok_iff, Bool.false_eq_true, false_imp_iff, and_true]
  refine ⟨fun ⟨_, _, hfirst⟩ => hfirst, fun hfirst => ?_⟩
  have hall : ∀ p ∈ s.orderedInputs, ∃ text, Argument p text := by
    intro p hp
    obtain ⟨type, htype⟩ := Option.isSome_iff_exists.mp (htyped p hp)
    exact ⟨_, type, htype, rfl⟩
  obtain ⟨texts, htexts⟩ := exists_forall₂_iff.mpr hall
  exact ⟨texts, htexts, hfirst⟩

/-- If the types have what is needed, only the order of the arguments can go wrong. -/
theorem exists_render_iff (hs : s.Arranged) :
    (∃ text, render s = .ok text) ↔ Complete s ∧ RequiredFirst s.orderedInputs := by
  have hparams : ∀ p ∈ s.orderedInputs, p ∈ s.params := fun p hp =>
    List.mem_of_mem_filter (List.mem_of_mem_filter (hs.inputs.mem_iff.mp hp))
  have htypes : (∃ types, (returnedTypes s).mapM (requireType s.name) = .ok types) ↔
      ∀ v ∈ values s, (v.type.text? "PY_TYPE").isSome := by
    simp only [returnedTypes_eq, exists_mapM_eq_ok_iff, exists_requireType_iff, List.forall_mem_map]
  have htyped : (∃ all, s.params.mapM (fun p => requireType s.name p.type) = .ok all) ↔
      ∀ p ∈ s.params, (p.type.text? "PY_TYPE").isSome := by
    simp only [exists_mapM_eq_ok_iff, exists_requireType_iff]
  simp only [render_eq_ok_iff]
  constructor
  · rintro ⟨_, x, hx, -⟩
    have hall := htyped.mp hx.typed
    have hinputs := exists_inputLines_iff.mp ⟨_, hx.inputs⟩
    refine ⟨⟨hall, htypes.mp ⟨_, hx.types⟩, fun p hp => constructed_iff.mp (hinputs p hp).1,
      fun p hp => (hinputs p hp).2, exists_outputLines_iff.mp ⟨_, hx.outputs⟩⟩, ?_⟩
    exact (exists_signatureTexts_iff fun p hp => hall p (hparams p hp)).mp ⟨_, hx.parameters⟩
  · rintro ⟨hcomplete, hfirst⟩
    obtain ⟨types, ht⟩ := htypes.mpr hcomplete.returned
    obtain ⟨parameters, hp⟩ := (exists_signatureTexts_iff fun p hp => hcomplete.typed p (hparams p hp)).mpr hfirst
    obtain ⟨inputs, hi⟩ := exists_inputLines_iff.mpr fun p hp =>
      ⟨constructed_iff.mpr (hcomplete.constructed p hp), hcomplete.inputs p hp⟩
    obtain ⟨outputs, ho⟩ := exists_outputLines_iff.mpr hcomplete.outputs
    exact ⟨_, ⟨types, parameters, inputs, outputs⟩, ⟨htyped.mpr hcomplete.typed, ht, hp, hi, ho⟩, rfl⟩

/-! ### The wrapper -/

/-- How the parts of a wrapper belong to the signature. The arguments are those parameters that are read, in signature
order, but for one that is taken for the ellipsis. The components of the annotation are the types of the values that are
returned. -/
structure Shaped (s : Signature) (x : Parts) : Prop where
  declares : s.function.Declares (s.params.map (·.param.declared))
  inputs : s.orderedInputs.Perm (s.inputs.filter fun p => ¬s.function.hides p.name)
  inputs_iff : s.orderedInputs.Perm s.inputs ↔ ∀ p ∈ s.inputs, ¬s.function.hides p.name
  arguments : List.Forall₂ Argument s.orderedInputs x.parameters
  requiredFirst : RequiredFirst s.orderedInputs
  annotation : List.Forall₂ (fun v type => v.type.text? "PY_TYPE" = some type) (values s) x.types
  returned : returnLines s =
    if values s = [] then [] else ["return " ++ Text.commaJoin ((values s).map Returned.expression)]

/-- What is rendered for a function of a catalog: a wrapper of this shape or a failure. If all types are known and have
what is needed, it is a failure exactly if a required input follows one with a default. -/
structure Annotated (c : Catalog) (name : String) (rendered : Except Error String) : Prop where
  shaped : ∀ text, rendered = .ok text →
    ∃ s x, Signature.resolve c name = .ok s ∧ Shaped s x ∧ text = x.layout s ∧
      text = "\n" ++ "\n".intercalate (x.lines s) ++ "\n"
  resolved : c.Resolves name → ∃ s, Signature.resolve c name = .ok s ∧
    ((∃ text, rendered = .ok text) ↔ Complete s ∧ RequiredFirst s.orderedInputs) ∧
    (Complete s → ((∃ e, rendered = .error e) ↔
      ∃ p q, [p, q].Sublist s.orderedInputs ∧ p.param.default.isSome ∧ q.param.default = none))

theorem shaped_of_parts (hs : s.Arranged) {x : Parts} (hx : x.Of s) : Shaped s x where
  declares := hs.declares
  inputs := hs.inputs
  inputs_iff := hs.inputs_iff
  arguments := (parameterTexts_eq_ok_iff.mp hx.parameters).1
  requiredFirst := (parameterTexts_eq_ok_iff.mp hx.parameters).2.1
  annotation := by
    have htypes := mapM_eq_ok_iff_forall₂.mp hx.types
    rw [returnedTypes_eq, List.forall₂_map_left_iff] at htypes
    exact htypes.imp fun v type hv => requireType_eq_ok_iff.mp hv
  returned := returnLines_eq

theorem annotated_of_render (r : Run Unit) (name : String) :
    Annotated r.session.catalog name ((target.render name).run.run r).1 := by
  have harranged : ∀ {s}, Signature.resolve r.session.catalog name = .ok s → s.Arranged := by
    intro s hs
    obtain ⟨f, -, hf⟩ := Signature.resolve_eq_ok_iff.mp hs
    exact Signature.arranged_of_ofFunction hf
  refine ⟨fun text htext => ?_, fun hresolves => ?_⟩
  · obtain ⟨s, hs, hrender⟩ := run_eq_ok_iff.mp htext
    obtain ⟨x, hx, rfl⟩ := render_eq_ok_iff.mp hrender
    exact ⟨s, x, hs, shaped_of_parts (harranged hs) hx, rfl, x.layout_eq s⟩
  · obtain ⟨s, hs⟩ := Signature.exists_resolve_iff.mpr hresolves
    have hrender : ((target.render name).run.run r).1 = render s := Gen.run_ofSignature_of_resolve hs render
    have hok := exists_render_iff (harranged hs)
    rw [hrender]
    refine ⟨s, hs, hok, fun hcomplete => ?_⟩
    rw [← not_requiredFirst_iff, ← and_iff_right (b := RequiredFirst s.orderedInputs) hcomplete, ← hok]
    cases render s <;> simp

/-- The wrapper takes no argument, though the function reads a parameter, which is passed to the library. -/
theorem wrapper_drops_argument :
    let c : Catalog := { Signature.catalogOf "INT ..." "..." with
      types := [("INT", ⟨"INT", [("PY_TYPE", .text "int")], .empty⟩)] }
    c.Resolves "f" ∧
      (∃ s, Signature.resolve c "f" = .ok s ∧ s.inputs.map (·.name) = ["..."] ∧ ¬s.orderedInputs.Perm s.inputs) ∧
      ((target.render "f").run.run ⟨.start c "PythonCTypesTypedWrapper" .default, ()⟩).1 =
        .ok ("\n\ndef f() -> int:\n    \"\"\"Type-annotated wrapper for ``f``.\"\"\"\n" ++
          "    # Prepare input arguments\n    c_... = ...\n\n    # Call wrapped function\n" ++
          "    c__result = f(c_...)\n\n    # Construct return value\n    return c__result\n") := by
  intro c
  have hresolve : (Signature.resolve c "f").map (fun s => (s.inputs.map (·.name), s.orderedInputs.length)) =
      .ok (["..."], 0) := by decide +kernel
  obtain ⟨s, hs, hboth⟩ := map_eq_ok_iff.mp hresolve
  obtain ⟨hinputs, hlength⟩ := Prod.mk.inj hboth
  refine ⟨Signature.exists_resolve_iff.mp ⟨s, hs⟩, ⟨s, hs, hinputs, fun hperm => ?_⟩, by decide +kernel⟩
  have hone := congrArg List.length hinputs
  rw [List.length_map, ← hperm.length_eq, hlength] at hone
  cases hone

end Bindery.Target.Python.Wrapper
