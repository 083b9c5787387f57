import Bindery.Proofs.Signature
import Bindery.Proofs.Target.Parts
import Bindery.Proofs.Text.Contains

/-! # Conversions of outputs

A conversion is written with the template that the type of a parameter has for the direction of the parameter
(`Signature.mem_facets_iff`). Two targets look at a parameter that is read and written in another way as well, and the
two views come apart: a command of the shell has an option of its own for the output, which is written with the template
for outputs only if that is also the template for both directions (`Shell.Program.writes_of_render`); the C code behind
Java converts the output into a variable of Java, and declares this variable only for parameters that are not read
(`Java.Glue.scoped_of_render`). -/

namespace Bindery

namespace Signature
variable {s : Signature} {facet : Facet} {naming : Template.Naming} {p : TypedParam} {ps : List TypedParam}
  {lines : List String} {line : String}

theorem facet?_eq_ok_iff :
    s.facet? facet naming p = .ok (some line) ↔ ∃ t, p.template? facet = some t ∧ s.fill naming p t = .ok line := by
  rw [facet?]
  cases p.template? facet with
  | none => simp
  | some t => simp [map_eq_ok_iff]

/-- The lines of a facet are what the templates of the parameters give, each for the direction of its parameter. -/
theorem mem_facets_iff (h : s.facets facet naming ps = .ok lines) (hline : line ≠ "") :
    line ∈ lines ↔ ∃ p ∈ ps, ∃ t, p.template? facet = some t ∧ s.fill naming p t = .ok line := by
  obtain ⟨texts, htexts, hlines⟩ := bind_eq_ok_iff.mp h
  obtain rfl := pure_eq_ok_iff.mp hlines
  simp only [← facet?_eq_ok_iff, ← mem_of_mapM_eq_ok htexts]
  simp [hline]

/-- Where the lines of a facet are made, the template of every parameter can be filled. -/
theorem exists_fill_of_facets (h : s.facets facet naming ps = .ok lines) (hp : p ∈ ps) {t : String}
    (ht : p.template? facet = some t) : ∃ line, s.fill naming p t = .ok line := by
  obtain ⟨texts, htexts, -⟩ := bind_eq_ok_iff.mp h
  obtain ⟨text, -, htext⟩ := exists_mem_of_mapM_eq_ok htexts hp
  rw [facet?, ht] at htext
  obtain ⟨line, hline, -⟩ := map_eq_ok_iff.mp htext
  exact ⟨line, hline⟩

end Signature

/-! ### What stands in a text -/

theorem Template.Substitution.infix_of_fillPieces {values : Substitution} {pieces : List Piece} {cs : List Char}
    (h : values.fillPieces pieces = .ok cs) {m : Mark} (hm : .mark m ∈ pieces) {v : String}
    (hv : m.placeholder?.bind values.value? = some v) : v.toList <:+: cs := by
  induction pieces generalizing cs with
  | nil => cases hm
  | cons p pieces ih =>
    rw [fillPieces] at h
    split at h
    · cases h
    · rename_i front hfront
      obtain ⟨rest, hrest, rfl⟩ := map_eq_ok_iff.mp h
      rcases List.mem_cons.mp hm with rfl | hm
      · rw [fillPiece, hv] at hfront
        cases hfront
        exact List.infix_append_of_infix_left List.infix_rfl
      · exact List.infix_append_of_infix_right (ih hrest hm)

/-- A filled template contains the values of its placeholders. -/
theorem Template.Substitution.contains_of_fill {values : Substitution} {template text : String}
    (h : values.fill template = .ok text) {p : Placeholder} (hp : p ∈ placeholders template) {v : String}
    (hv : values.value? p = some v) : Text.contains v text := by
  obtain ⟨m, hm, hplaceholder⟩ := List.mem_filterMap.mp hp
  obtain ⟨piece, hpiece, hmark⟩ := List.mem_filterMap.mp hm
  obtain ⟨cs, hcs, rfl⟩ := map_eq_ok_iff.mp h
  cases piece with
  | plain c => cases hmark
  | mark m' =>
    cases hmark
    rw [Text.contains_iff, String.toList_ofList]
    exact infix_of_fillPieces hcs hpiece (by rw [hplaceholder, Option.bind_some, hv])

/-- A line stands among others, or there is nothing of it to write. -/
theorem Target.contains_marginedLines {lines : List String} {line : String} (h : line ≠ "" → line ∈ lines) :
    Text.contains line (marginedLines lines) := by
  by_cases hline : line = ""
  · subst hline
    exact Text.contains_iff.mpr (List.nil_infix ..)
  · exact Text.contains_trans (Text.contains_append_left "  " (Text.contains_self line))
      (Text.contains_joinWith "\n" (List.mem_map_of_mem (h hline)))

/-! ### The shell -/

namespace Target.Shell.Program
variable {s : Signature} {p : TypedParam} {lines : List String} {template text : String}

/-- The template of a type with which the text of an option is written. -/
def Choice.written? (c : Choice) : Option String := c.param.type.template? .outConv c.mode

/-- A parameter is read as well, and its type has the template for outputs, but not for both directions. -/
structure Overlooked (p : TypedParam) (template : String) : Prop where
  both : p.param.mode = .both
  keyed : ∃ entries, entries ≠ [] ∧ p.type.attr? Facet.outConv.key = some (.map entries) ∧
    (Entries.get? entries "OUT").bind Attr.Value.template? = some template ∧
    (Entries.get? entries "INOUT").bind Attr.Value.template? ≠ some template

/-- The template for outputs is that of the parameter, unless it is overlooked. -/
theorem template?_eq_some_iff (hwrites : p.writes) (h : p.type.template? .outConv .output = some template) :
    p.template? .outConv = some template ↔ ¬Overlooked p template := by
  have hmode : p.param.mode = .output ∨ p.param.mode = .both := by
    rw [TypedParam.writes, Param.writes] at hwrites
    cases hmode : p.param.mode <;> rw [hmode] at hwrites <;> simp [Mode.writes] at hwrites ⊢
  rw [TypedParam.template?]
  rcases hmode with hmode | hmode
  · rw [hmode]
    refine iff_of_true h fun hover => ?_
    rw [hover.both] at hmode
    cases hmode
  · rw [hmode]
    constructor
    · rintro hboth ⟨-, entries, hne, hattr, -, hnot⟩
      obtain ⟨e, entries, rfl⟩ := List.exists_cons_of_ne_nil hne
      rw [TypeInfo.template?, hattr] at hboth
      exact hnot hboth
    · -- A plain text is the template for every direction, so only a mapping can tell the two apart.
      intro hnot
      by_contra hboth
      rw [TypeInfo.template?] at h hboth
      split at h
      · cases h
      · rename_i hattr
        rw [hattr] at hboth
        exact hboth h
      · rename_i hattr
        rw [hattr] at hboth
        exact hboth h
      · rename_i entries hne hattr
        simp only [hattr] at hboth
        exact hnot ⟨hmode, entries, hne, hattr, h, hboth⟩
      · cases h

/-- What a command does for its outputs: the options that ask where to write them, and the lines that write them. -/
structure Writes (s : Signature) (lines : List String) : Prop where
  options : ∀ p ∈ s.params, ∀ name, ⟨name, p, .output⟩ ∈ choices s ↔ converts p.type ∧
    (p.param.mode = .output ∧ name = p.name ∨ p.param.mode = .both ∧ name = p.name ++ "-out")
  mem_iff : ∀ line, line ≠ "" → (line ∈ lines ↔
    (∃ p ∈ s.params, ∃ t, p.template? .outConv = some t ∧ s.fill .declared p t = .ok line) ∨
      ∃ t, s.returnTemplate? .outConv = some t ∧ (returnValues s).fill t = .ok line)
  /-- The parameter of an option is written with the template of the option, unless that is overlooked. -/
  template_iff : ∀ c ∈ choices s, c.mode = .output → ∀ t, c.written? = some t →
    (c.param.template? .outConv = some t ↔ ¬Overlooked c.param t)
  written : ∀ c ∈ choices s, c.mode = .output → ∀ t, c.written? = some t → ¬Overlooked c.param t →
    ∃ line, s.fill .declared c.param t = .ok line ∧ Text.contains line (marginedLines lines)

theorem mem_choicesOf_iff {c : Choice} (hmode : c.mode = .output) :
    c ∈ choicesOf p ↔ c.param = p ∧ converts p.type ∧
      (p.param.mode = .output ∧ c.name = p.name ∨ p.param.mode = .both ∧ c.name = p.name ++ "-out") := by
  obtain ⟨name, q, mode⟩ := c
  obtain rfl : mode = .output := hmode
  rw [choicesOf]
  cases hconverts : converts p.type
  · simp
  · cases p.param.mode <;> simp <;> tauto

theorem mem_choices_iff {c : Choice} (hmode : c.mode = .output) :
    c ∈ choices s ↔ c.param ∈ s.params ∧ converts c.param.type ∧
      (c.param.param.mode = .output ∧ c.name = c.param.name ∨
        c.param.param.mode = .both ∧ c.name = c.param.name ++ "-out") := by
  rw [choices, List.mem_flatMap]
  constructor
  · rintro ⟨p, hp, hc⟩
    obtain ⟨rfl, hc⟩ := (mem_choicesOf_iff hmode).mp hc
    exact ⟨hp, hc⟩
  · rintro ⟨hp, hc⟩
    exact ⟨c.param, hp, (mem_choicesOf_iff hmode).mpr ⟨rfl, hc⟩⟩

theorem mem_returnConversion_iff (h : returnConversion s = .ok lines) {line : String} (hline : line ≠ "") :
    line ∈ lines ↔ ∃ t, s.returnTemplate? .outConv = some t ∧ (returnValues s).fill t = .ok line := by
  rw [returnConversion] at h
  split at h
  · rename_i hnone
    cases h
    simp [hnone]
  · rename_i t ht
    split at h
    · rename_i hempty
      cases h
      have hfill : (returnValues s).fill "" = .ok "" := rfl
      simp [ht, hempty, hfill, hline.symm]
    · obtain ⟨text, htext, rfl⟩ := map_eq_ok_iff.mp h
      simp [ht, htext, eq_comm]

theorem writes_of_outputConversions (h : outputConversions s = .ok lines) : Writes s lines := by
  obtain ⟨own, hown, h⟩ := bind_eq_ok_iff.mp h
  obtain ⟨returned, hreturned, h⟩ := bind_eq_ok_iff.mp h
  obtain rfl := pure_eq_ok_iff.mp h
  have hmem : ∀ line, line ≠ "" → (line ∈ own ++ returned ↔
      (∃ p ∈ s.params, ∃ t, p.template? .outConv = some t ∧ s.fill .declared p t = .ok line) ∨
        ∃ t, s.returnTemplate? .outConv = some t ∧ (returnValues s).fill t = .ok line) := fun line hline => by
    rw [List.mem_append, s.mem_facets_iff hown hline, mem_returnConversion_iff hreturned hline]
  have htemplate : ∀ c ∈ choices s, c.mode = .output → ∀ t, c.written? = some t →
      (c.param.template? .outConv = some t ↔ ¬Overlooked c.param t) := by
    intro c hc hmode t ht
    have hwrites : c.param.writes := by
      obtain ⟨-, -, ⟨hc, -⟩ | ⟨hc, -⟩⟩ := (mem_choices_iff hmode).mp hc <;>
        simp [TypedParam.writes, Param.writes, hc, Mode.writes]
    rw [Choice.written?, hmode] at ht
    exact template?_eq_some_iff hwrites ht
  refine ⟨fun p hp name => ?_, hmem, htemplate, fun c hc hmode t ht hnot => ?_⟩
  · rw [mem_choices_iff rfl]
    exact and_iff_right hp
  · have hp := ((mem_choices_iff hmode).mp hc).1
    have hown' := (htemplate c hc hmode t ht).mpr hnot
    obtain ⟨line, hline⟩ := s.exists_fill_of_facets hown hp hown'
    exact ⟨line, hline, contains_marginedLines fun hne => (hmem line hne).mpr (Or.inl ⟨c.param, hp, t, hown', hline⟩)⟩

/-- The end of a command, with the lines that write its outputs. -/
def closing (lines : List String) : String :=
  "\n\n  /* Write the result */\n" ++ marginedLines lines ++ "\n\n  return 0;\n\x7d\n"

theorem contains_closing {r : Run Unit} {name : String} (h : ((target.render name).run.run r).1 = .ok text) :
    ∃ s lines, Signature.resolve r.session.catalog name = .ok s ∧ outputConversions s = .ok lines ∧
      Text.contains (closing lines) text := by
  obtain ⟨s, hs, hrender⟩ := run_eq_ok_iff.mp h
  obtain ⟨x, hx, hfill⟩ := render_eq_ok_iff.mp hrender
  exact ⟨s, x.outputs, hs, hx.outputs, Template.Skeleton.contains_of_framed hfill ⟨skeleton.take 26, [], rfl⟩ rfl⟩

/-- A command writes the outputs that its options ask for with the templates of these options, except where a template
is overlooked. -/
theorem writes_of_render {r : Run Unit} {name : String} (h : ((target.render name).run.run r).1 = .ok text) :
    ∃ s lines, Signature.resolve r.session.catalog name = .ok s ∧ Writes s lines ∧
      Text.contains (closing lines) text := by
  obtain ⟨s, lines, hs, hlines, hcontains⟩ := contains_closing h
  exact ⟨s, lines, hs, writes_of_outputConversions hlines, hcontains⟩

/-- A template that writes an output to where an option says. -/
def writing : String := "write(%C%, shell_arg_%C%);"

/-- A catalog with a function `f` that reads and writes a parameter of a type with these conversions of outputs. -/
def catalogWriting (outConv : Attr.Value) : Catalog where
  functions := [("f", { Function.new "f" true with attrs := [("PARAMS", .text "INOUT INT x")] })]
  types := [("INT", { TypeInfo.new "INT" with attrs := [("CTYPE", .text "int"), ("OUTCONV", outConv)] }),
    ("ERROR", .new "ERROR")]
  strict := true

/-- The output is written with the template that the type has for all directions. -/
theorem writes_of_render_both :
    ∃ text, ((target.render "f").run.run ⟨.start (catalogWriting (.text writing)) "Shell" .default, ()⟩).1 = .ok text ∧
      Text.contains "write(x, shell_arg_x);" text := by
  obtain ⟨text, htext, -⟩ := map_eq_ok_iff.mp (show (((target.render "f").run.run
    ⟨.start (catalogWriting (.text writing)) "Shell" .default, ()⟩).1.map fun _ => ()) = .ok () by decide +kernel)
  obtain ⟨s, lines, hs, hwrites, hcontains⟩ := writes_of_render htext
  have hasked : (Signature.resolve (catalogWriting (.text writing)) "f").map (fun s =>
      decide (∃ c ∈ choices s, c.mode = .output ∧ c.written? = some writing ∧
        c.param.type.attr? Facet.outConv.key = some (.text writing) ∧
        s.fill .declared c.param writing = .ok "write(x, shell_arg_x);")) = .ok true := by decide +kernel
  obtain ⟨_, hs', hasked⟩ := map_eq_ok_iff.mp hasked
  cases hs.symm.trans hs'
  obtain ⟨choice, hchoice, hmode, htemplate, hattr, hfill⟩ := of_decide_eq_true hasked
  have hnot : ¬Overlooked choice.param writing := by
    rintro ⟨-, entries, -, hkeyed, -⟩
    cases hattr.symm.trans hkeyed
  obtain ⟨line, hline, hcontained⟩ := hwrites.written choice hchoice hmode _ htemplate hnot
  cases hfill.symm.trans hline
  exact ⟨text, htext, Text.contains_trans
    (Text.contains_append_right _ (Text.contains_append_left _ hcontained)) hcontains⟩

/-- A command asks where to write its output, and writes nothing: the type has a template for outputs, and none for both
directions. -/
theorem render_overlooks_output :
    (∃ s, Signature.resolve (catalogWriting (.map [("OUT", .text writing)])) "f" = .ok s ∧
      ∃ c ∈ choices s, c.name = "x-out" ∧ c.mode = .output ∧ c.written? = some writing ∧
        s.fill .declared c.param writing = .ok "write(x, shell_arg_x);") ∧
      ∃ text, ((target.render "f").run.run
        ⟨.start (catalogWriting (.map [("OUT", .text writing)])) "Shell" .default, ()⟩).1 = .ok text ∧
          Text.contains (closing []) text ∧ ¬Text.contains "write(x, shell_arg_x);" (closing []) := by
  have hasked : (Signature.resolve (catalogWriting (.map [("OUT", .text writing)])) "f").map (fun s =>
      (decide (∃ c ∈ choices s, c.name = "x-out" ∧ c.mode = .output ∧ c.written? = some writing ∧
        s.fill .declared c.param writing = .ok "write(x, shell_arg_x);"), outputConversions s)) =
          .ok (true, .ok []) := by decide +kernel
  obtain ⟨s, hs, hall⟩ := map_eq_ok_iff.mp hasked
  obtain ⟨hchoice, hnone⟩ := Prod.mk.inj hall
  obtain ⟨text, htext, -⟩ := map_eq_ok_iff.mp (show (((target.render "f").run.run
    ⟨.start (catalogWriting (.map [("OUT", .text writing)])) "Shell" .default, ()⟩).1.map
      fun _ => ()) = .ok () by decide +kernel)
  obtain ⟨s', lines, hs', hlines, hcontains⟩ := contains_closing htext
  cases hs.symm.trans hs'
  cases hnone.symm.trans hlines
  exact ⟨⟨s, hs, of_decide_eq_true hchoice⟩, text, htext, hcontains, by decide +kernel⟩

end Target.Shell.Program

/-! ### C code behind Java -/

namespace Target.Java.Glue
variable {s : Signature} {m : Method} {p : TypedParam} {declared converted lines : List String} {text : String}

/-- The variables of Java that are declared for outputs, with their declarations. -/
def javaVariables (s : Signature) : List (String × String) :=
  (s.params.filter TypedParam.onlyWritten).filterMap fun p =>
    (javaDeclaration? p.type (javaVariable p.name)).map (javaVariable p.name, ·)

/-- The declarations of what the function returns, of the result, and of the class. -/
def resultLines (s : Signature) (m : Method) : List String :=
  [s.returnType.declareC callResult .output] ++ (javaDeclaration? (resultType s m) "result").toList ++
    (classDeclaration? s m).toList

/-- The variables of Java that the lines of a function declare and write. -/
structure Scoped (s : Signature) (m : Method) (declared converted : List String) : Prop where
  /-- The variables of C are declared, then these variables, and then the result. -/
  declarations : ∃ own, s.params.mapM (declaration s) = .ok own ∧
    declared = (own ++ (javaVariables s).map (·.2) ++ resultLines s m).filter (· ≠ "")
  /-- A variable is declared for the parameters that are only written. -/
  declared_iff : ∀ p ∈ s.params, ∀ t, typeText? p.type = some t → p.type.text? "JAVADECL" = none →
    ((javaVariable p.name, s!"{t} {javaVariable p.name};") ∈ javaVariables s ↔ p.onlyWritten)
  declared : ∀ p ∈ s.params, p.onlyWritten → ∀ t, typeText? p.type = some t → p.type.text? "JAVADECL" = none →
    Text.contains s!"{t} {javaVariable p.name};" (marginedLines declared)
  /-- An output that is converted into a variable of Java is converted into this one. -/
  converted : ∀ p ∈ s.params, ∀ t, p.template? .outConv = some t → .interfaceName ∈ Template.placeholders t →
    ∃ line, s.fill outputNaming p t = .ok line ∧ Text.contains (javaVariable p.name) line ∧
      Text.contains line (marginedLines converted)

theorem declarations_eq_ok (h : declarations s m = .ok lines) : ∃ own, s.params.mapM (declaration s) = .ok own ∧
    lines = (own ++ (javaVariables s).map (·.2) ++ resultLines s m).filter (· ≠ "") := by
  obtain ⟨own, hown, h⟩ := bind_eq_ok_iff.mp h
  obtain rfl := pure_eq_ok_iff.mp h
  have hconverted : ((s.params.filter TypedParam.onlyWritten).filterMap fun p =>
      javaDeclaration? p.type (javaVariable p.name)) = (javaVariables s).map (·.2) := by
    rw [javaVariables, List.map_filterMap]
    refine List.filterMap_congr fun p _ => ?_
    rw [Option.map_map]
    exact Option.map_id'.symm
  refine ⟨own, hown, ?_⟩
  rw [hconverted, resultLines]
  simp only [List.append_assoc]

theorem javaDeclaration?_of_typeText? {t : TypeInfo} {type name : String} (htype : typeText? t = some type)
    (hnone : t.text? "JAVADECL" = none) : javaDeclaration? t name = some s!"{type} {name};" := by
  rw [javaDeclaration?, hnone, htype]
  rfl

theorem javaVariable_injective {a b : String} (h : javaVariable a = javaVariable b) : a = b := by
  have hchars := congrArg String.toList h
  rw [javaVariable, javaVariable, String.toList_append, String.toList_append, List.append_cancel_left_eq] at hchars
  exact String.toList_injective hchars

theorem mem_javaVariables_iff (hs : s.Arranged) (hp : p ∈ s.params) {decl : String}
    (hdecl : javaDeclaration? p.type (javaVariable p.name) = some decl) :
    (javaVariable p.name, decl) ∈ javaVariables s ↔ p.onlyWritten := by
  rw [javaVariables, List.mem_filterMap]
  constructor
  · -- No other parameter has this variable, since it has another name.
    rintro ⟨q, hq, heq⟩
    obtain ⟨_, -, heq⟩ := Option.map_eq_some_iff.mp heq
    obtain ⟨hq, honly⟩ := List.mem_filter.mp hq
    have hname := javaVariable_injective (Prod.mk.inj heq).1
    rwa [List.inj_on_of_nodup_map hs.nodup_params hq hp hname] at honly
  · intro honly
    exact ⟨p, List.mem_filter.mpr ⟨hp, honly⟩, by rw [hdecl, Option.map_some]⟩

/-- What converts a parameter stands among the conversions, whether or not one of the outputs is returned. -/
theorem contains_conversion (h : outputConversions s m = .ok lines) (hp : p ∈ s.params) {t : String}
    (ht : p.template? .outConv = some t) :
    ∃ line, s.fill outputNaming p t = .ok line ∧ Text.contains line (marginedLines lines) := by
  obtain ⟨own, hown, h⟩ := bind_eq_ok_iff.mp h
  obtain ⟨line, hline⟩ := s.exists_fill_of_facets hown hp ht
  have hmem : line ≠ "" → line ∈ own := fun hne => (s.mem_facets_iff hown hne).mpr ⟨p, hp, t, ht, hline⟩
  refine ⟨line, hline, ?_⟩
  split at h
  · rename_i q _
    obtain rfl := pure_eq_ok_iff.mp h
    by_cases hne : line = ""
    · exact contains_marginedLines fun h => absurd hne h
    · -- An output is returned, so the conversions are indented in the branch where the call succeeded.
      have hinner : "  " ++ line ∈ guardedLines q own := by
        refine List.mem_append_left _ (List.mem_append_right _ ?_)
        exact List.mem_map_of_mem (List.mem_append_left _ (hmem hne))
      exact Text.contains_trans (Text.contains_append_left "  " (Text.contains_self line))
        (contains_marginedLines fun _ => hinner)
  · obtain ⟨returned, -, h⟩ := bind_eq_ok_iff.mp h
    obtain rfl := pure_eq_ok_iff.mp h
    exact contains_marginedLines fun hne => List.mem_append_left _ (hmem hne)

theorem scoped_of_parts (hs : s.Arranged) (hdeclared : declarations s m = .ok declared)
    (hconverted : outputConversions s m = .ok converted) : Scoped s m declared converted where
  declarations := declarations_eq_ok hdeclared
  declared_iff p hp t ht hnone := mem_javaVariables_iff hs hp (javaDeclaration?_of_typeText? ht hnone)
  declared p hp honly t ht hnone := by
    obtain ⟨own, -, rfl⟩ := declarations_eq_ok hdeclared
    have hvariable := (mem_javaVariables_iff hs hp (javaDeclaration?_of_typeText? ht hnone)).mpr honly
    refine contains_marginedLines fun hne => List.mem_filter.mpr ⟨?_, decide_eq_true hne⟩
    exact List.mem_append_left _ (List.mem_append_right _ (List.mem_map_of_mem hvariable))
  converted p hp t ht hmentions := by
    obtain ⟨line, hline, hcontains⟩ := contains_conversion hconverted hp ht
    exact ⟨line, hline, Template.Substitution.contains_of_fill hline hmentions rfl, hcontains⟩

/-- The code behind a method, with its declarations and the conversions of its outputs. -/
structure Layout (declared converted : List String) (text : String) : Prop where
  declared : Text.contains (" \x7b\n                                        /* Declarations */\n" ++
    marginedLines declared ++
    "\n\n  Java_igraph_before();\n                                        /* Convert input */\n") text
  converted : Text.contains ("\n                                        /* Convert output */\n" ++
    marginedLines converted ++ "\n\n  Java_igraph_after();\n\n") text

theorem layout_of_run {r : Run Unit} {name : String} (h : ((target.render name).run.run r).1 = .ok text) :
    ∃ s m declared converted, Signature.resolve r.session.catalog name = .ok s ∧ Method.ofSignature s = .ok m ∧
      declarations s m = .ok declared ∧ outputConversions s m = .ok converted ∧ Layout declared converted text := by
  obtain ⟨s, hs, hrender⟩ := run_eq_ok_iff.mp h
  obtain ⟨x, hx, hfill⟩ := render_eq_ok_iff.mp hrender
  refine ⟨s, x.method, x.declarations, x.outputs, hs, hx.method, hx.declarations, hx.outputs, ?_, ?_⟩
  · exact Template.Skeleton.contains_of_framed hfill ⟨skeleton.take 4, skeleton.drop 7, rfl⟩ rfl
  · exact Template.Skeleton.contains_of_framed hfill ⟨skeleton.take 10, skeleton.drop 13, rfl⟩ rfl

/-- Every output whose conversion mentions its variable of Java is converted into it, but the variable is declared only
if the parameter is not read. -/
theorem scoped_of_render {r : Run Unit} {name : String} (h : ((target.render name).run.run r).1 = .ok text) :
    ∃ s m declared converted, Signature.resolve r.session.catalog name = .ok s ∧ Method.ofSignature s = .ok m ∧
      Scoped s m declared converted ∧ Layout declared converted text := by
  obtain ⟨s, m, declared, converted, hs, hm, hdeclared, hconverted, hlayout⟩ := layout_of_run h
  exact ⟨s, m, declared, converted, hs, hm,
    scoped_of_parts (Signature.arranged_of_resolve hs).2 hdeclared hconverted, hlayout⟩

/-- A catalog with a function `f` that writes a parameter `x`, which is converted into a variable of Java. -/
def catalogConverting (mode : Mode) : Catalog where
  functions := [("f", { Function.new "f" true with attrs := [("PARAMS", .text (mode.keyword ++ " INT x"))] })]
  types := [("INT", { TypeInfo.new "INT" with attrs :=
    [("JAVATYPE", .text "long"), ("CTYPE", .text "int"), ("OUTCONV", .text "%I% = %C%;")] }),
    ("ERROR", { TypeInfo.new "ERROR" with attrs := [("CTYPE", .text "int")] })]
  strict := true

/-- An output that is only written has its variable. -/
theorem scoped_of_render_output :
    ∃ text, ((target.render "f").run.run ⟨.start (catalogConverting .output) "JavaC" .default, ()⟩).1 = .ok text ∧
      Text.contains "long j_x;" text ∧ Text.contains "j_x" text := by
  obtain ⟨text, htext, -⟩ := map_eq_ok_iff.mp (show (((target.render "f").run.run
    ⟨.start (catalogConverting .output) "JavaC" .default, ()⟩).1.map fun _ => ()) = .ok () by decide +kernel)
  obtain ⟨s, m, declared, converted, hs, -, hscoped, hlayout⟩ := scoped_of_render htext
  have hparams : (Signature.resolve (catalogConverting .output) "f").map (fun s => decide (∃ p ∈ s.params,
      p.name = "x" ∧ p.onlyWritten = true ∧ typeText? p.type = some "long" ∧ p.type.text? "JAVADECL" = none ∧
        p.template? .outConv = some "%I% = %C%;")) = .ok true := by decide +kernel
  obtain ⟨_, hs', hall⟩ := map_eq_ok_iff.mp hparams
  cases hs.symm.trans hs'
  obtain ⟨p, hp, hname, honly, htype, hnone, htemplate⟩ := of_decide_eq_true hall
  have hdeclared : Text.contains ("long" ++ " " ++ javaVariable p.name ++ ";") (marginedLines declared) :=
    hscoped.declared p hp honly "long" htype hnone
  obtain ⟨line, -, hvariable, hline⟩ := hscoped.converted p hp _ htemplate (by decide +kernel)
  have hdecl : "long" ++ " " ++ javaVariable "x" ++ ";" = "long j_x;" := by decide
  have hj : javaVariable "x" = "j_x" := by decide
  rw [hname, hdecl] at hdeclared
  rw [hname, hj] at hvariable
  refine ⟨text, htext, ?_, ?_⟩
  · exact Text.contains_trans (Text.contains_append_right _ (Text.contains_append_left _ hdeclared)) hlayout.declared
  · exact Text.contains_trans (Text.contains_trans hvariable
      (Text.contains_trans hline (Text.contains_append_right _ (Text.contains_append_left _ (Text.contains_self _)))))
      hlayout.converted

/-- An output that is read as well is converted into a variable that is not declared. -/
theorem render_leaves_undeclared :
    ∃ s text declared converted, Signature.resolve (catalogConverting .both) "f" = .ok s ∧
      ((target.render "f").run.run ⟨.start (catalogConverting .both) "JavaC" .default, ()⟩).1 = .ok text ∧
      Layout declared converted text ∧
      (∃ p ∈ s.params, p.name = "x" ∧ typeText? p.type = some "long" ∧ p.type.text? "JAVADECL" = none ∧
        p.template? .outConv = some "%I% = %C%;" ∧ s.fill outputNaming p "%I% = %C%;" = .ok "j_x = c_x;") ∧
      converted =
        ["if (c__result == 0) \x7b", "  j_x = c_x;", "  result = x;", "\x7d else \x7b", "  result = 0;", "\x7d"] ∧
      declared = ["int c_x;", "int c__result;", "long result;"] ∧
      ¬Text.contains "long j_x;" (marginedLines declared) := by
  have hparts : (Signature.resolve (catalogConverting .both) "f" >>= fun s => Method.ofSignature s >>= fun m =>
      declarations s m >>= fun declared => (outputConversions s m).map fun converted =>
        (decide (∃ p ∈ s.params, p.name = "x" ∧ typeText? p.type = some "long" ∧ p.type.text? "JAVADECL" = none ∧
          p.template? .outConv = some "%I% = %C%;" ∧ s.fill outputNaming p "%I% = %C%;" = .ok "j_x = c_x;"),
          declared, converted)) =
      .ok (true, ["int c_x;", "int c__result;", "long result;"],
        ["if (c__result == 0) \x7b", "  j_x = c_x;", "  result = x;", "\x7d else \x7b", "  result = 0;", "\x7d"]) := by
    decide +kernel
  obtain ⟨text, htext, -⟩ := map_eq_ok_iff.mp (show (((target.render "f").run.run
    ⟨.start (catalogConverting .both) "JavaC" .default, ()⟩).1.map fun _ => ()) = .ok () by decide +kernel)
  obtain ⟨s, m, declared, converted, hs, hm, hdeclared, hconverted, hlayout⟩ := layout_of_run htext
  have hs : Signature.resolve (catalogConverting .both) "f" = .ok s := hs
  rw [hs, ok_bind, hm, ok_bind, hdeclared, ok_bind, hconverted] at hparts
  obtain ⟨hparam, hlines⟩ := Prod.mk.inj (Except.ok.inj hparts)
  obtain ⟨rfl, rfl⟩ := Prod.mk.inj hlines
  exact ⟨s, text, _, _, hs, htext, hlayout, of_decide_eq_true hparam, rfl, rfl, by decide +kernel⟩

end Target.Java.Glue
end Bindery
