import Bindery.Proofs.Catalog.Loads
import Bindery.Proofs.Signature
import Bindery.Proofs.Target.Determined
import Bindery.Proofs.Target.Renders
import Bindery.Proofs.Text.Contains
import Bindery.Proofs.Text.Pieces
import Bindery.Target.Named

/-! # Prototypes and their checks

The program that checks prototypes declares them one after the other and compares them afterwards with the library, from
a list of names that is kept meanwhile. What is compared is what has been declared: the functions all of whose types are
known (`Prototype.checked_of_validate`). Every other function leaves a comment and a diagnostic. -/

namespace Bindery

/-! ### Indentation -/

/-- A text with an indentation in front of each line that is not blank. -/
def Indented (indent text indented : String) : Prop :=
  ∃ lines : List String, Text.IsLines text.toList (lines.map String.toList) ∧
    indented = String.join (lines.map fun line => if Text.isBlankText line then line else indent ++ line)

section
variable {indent line : String} {lines : List String}

theorem indented_indentLines (indent text : String) : Indented indent text (indentLines indent text) :=
  ⟨Text.lines text, Text.isLines_lines text, rfl⟩

theorem indentLines_line (hfeed : '\n' ∉ line.toList) (hline : Text.isBlankText line = false) :
    indentLines indent line = indent ++ line := by
  have hne : line.toList ≠ [] := by
    rintro hempty
    rw [Text.isBlankText, hempty] at hline
    cases hline
  rw [indentLines, Text.lines, (Text.IsLines.last hne hfeed).eq]
  simp [hline]

theorem indentLines_line_append (hfeed : '\n' ∉ line.toList) (hline : Text.isBlankText line = false) (rest : String) :
    indentLines indent (line ++ "\n" ++ rest) = indent ++ line ++ "\n" ++ indentLines indent rest := by
  have hchars : (line ++ "\n" ++ rest).toList = line.toList ++ '\n' :: rest.toList := by simp
  have hblank : Text.isBlankText (line ++ "\n") = false := by
    rw [Text.isBlankText] at hline ⊢
    rw [String.toList_append, List.all_append, hline, Bool.false_and]
  have hofList : String.ofList (line.toList ++ ['\n']) = line ++ "\n" := by simp
  rw [indentLines, Text.lines, hchars, Text.lineChars_append hfeed, List.map_cons, List.map_cons, hofList, hblank,
    String.join_cons, ← Text.lines, ← indentLines]
  simp [String.append_assoc]

/-- Lines that hold no line feed and are not blank are indented one by one. -/
theorem indentLines_joinWith (h : ∀ line ∈ lines, '\n' ∉ line.toList ∧ Text.isBlankText line = false) :
    indentLines indent (Text.joinWith "\n" lines) = Text.joinWith "\n" (lines.map (indent ++ ·)) := by
  induction lines with
  | nil => rfl
  | cons line rest ih =>
    rw [List.forall_mem_cons] at h
    obtain ⟨hfeed, hline⟩ := h.1
    by_cases hrest : rest = []
    · subst hrest
      exact indentLines_line hfeed hline
    · rw [Text.joinWith_cons_of_ne_nil hrest, indentLines_line_append hfeed hline, ih h.2, List.map_cons,
        Text.joinWith_cons_of_ne_nil (mt List.map_eq_nil_iff.mp hrest)]

end

namespace Target.Check.Prototype
open Catalog (Load)
open Renderer (outcomes after diagnosed?)

variable {c : Catalog} {f : Function} {p : Param} {name text : String} {names : List String} {e : Error}

/-! ### Single functions -/

/-- A text declares a parameter. -/
def Declares (c : Catalog) (p : Param) (text : String) : Prop :=
  ∃ t, c.type? p.type = some t ∧ text = match t.cType? p.mode with
    | some cType => s!"{cType} {p.name}"
    | none => p.name

/-- A text is the prototype of a function. -/
def IsPrototype (c : Catalog) (name text : String) : Prop :=
  ∃ f table t arguments, c.function? name = some f ∧ f.params = .ok table ∧ c.type? f.returnType = some t ∧
    List.Forall₂ (Declares c) (Entries.values table) arguments ∧
    text = s!"{(t.cType? .output).getD t.name} generated_{name}({Text.commaJoin arguments});\n"

/-- The types of all parameters of a function are known, and so is the type of what it returns. -/
def TypesKnown (c : Catalog) (name : String) : Prop :=
  ∃ f table, c.function? name = some f ∧ f.params = .ok table ∧ (c.type? f.returnType).isSome ∧
    ∀ p ∈ Entries.values table, (c.type? p.type).isSome

/-- A function uses a type that is not known. -/
def Misses (c : Catalog) (name type : String) : Prop :=
  ∃ f table, c.function? name = some f ∧ f.params = .ok table ∧ c.type? type = none ∧
    (type = f.returnType ∨ ∃ p ∈ Entries.values table, type = p.type)

theorem exists_isPrototype_iff : (∃ text, IsPrototype c name text) ↔ TypesKnown c name := by
  constructor
  · rintro ⟨_, f, table, t, arguments, hf, htable, ht, harguments, -⟩
    refine ⟨f, table, hf, htable, Option.isSome_of_eq_some ht, fun p hp => ?_⟩
    obtain ⟨_, t, ht, -⟩ := exists_forall₂_iff.mp ⟨arguments, harguments⟩ p hp
    exact Option.isSome_of_eq_some ht
  · rintro ⟨f, table, hf, htable, ht, hknown⟩
    obtain ⟨t, ht⟩ := Option.isSome_iff_exists.mp ht
    have hall : ∀ p ∈ Entries.values table, ∃ text, Declares c p text := by
      intro p hp
      obtain ⟨t, ht⟩ := Option.isSome_iff_exists.mp (hknown p hp)
      exact ⟨_, t, ht, rfl⟩
    obtain ⟨arguments, harguments⟩ := exists_forall₂_iff.mpr hall
    exact ⟨_, f, table, t, arguments, hf, htable, ht, harguments, rfl⟩

/-- The prototype of a function of a catalog. -/
def rendering (c : Catalog) (name : String) : Except Error String := c.requireFunction name >>= render c.types

theorem argument_eq_ok_iff {function : String} : argument c.types function p = .ok text ↔ Declares c p text := by
  rw [argument, map_eq_ok_iff]
  refine exists_congr fun t => and_congr Catalog.resolveType_eq_ok_iff ?_
  exact eq_comm

/-- A function goes by the name under which the catalog has it. -/
theorem rendering_eq_ok_iff (hnamed : ∀ name f, c.function? name = some f → f.name = name) :
    rendering c name = .ok text ↔ IsPrototype c name text := by
  have harguments : ∀ {function ps arguments}, ps.mapM (argument c.types function) = .ok arguments ↔
      List.Forall₂ (Declares c) ps arguments := by
    simp only [mapM_eq_ok_iff_forall₂, argument_eq_ok_iff, implies_true]
  simp only [rendering, render, bind_eq_ok_iff, Catalog.requireFunction_eq_ok_iff, Catalog.resolveType_eq_ok_iff,
    harguments, pure_eq_ok_iff]
  constructor
  · rintro ⟨f, hf, t, ht, table, htable, arguments, hall, rfl⟩
    exact ⟨f, table, t, arguments, hf, htable, ht, hall, by rw [hnamed name f hf]⟩
  · rintro ⟨f, table, t, arguments, hf, htable, ht, hall, rfl⟩
    exact ⟨f, hf, t, ht, table, htable, arguments, hall, by rw [hnamed name f hf]⟩

/-- A prototype fails for a type that is not known. -/
theorem exists_misses_of_rendering (hnamed : ∀ name f, c.function? name = some f → f.name = name)
    (hc : c.validate = .ok ()) (hname : name ∈ Entries.names c.functions) (h : rendering c name = .error e) :
    ∃ type, Misses c name type ∧ e = .unknownType name type := by
  obtain ⟨f, hf, hrequire⟩ := Catalog.exists_requireFunction hname
  obtain ⟨table, htable⟩ := Catalog.exists_params_of_validate hc hf
  rw [rendering, hrequire, ok_bind, render, hnamed name f hf, htable] at h
  simp only [ok_bind] at h
  rcases bind_eq_error_iff.mp h with h | ⟨t, -, h⟩
  · obtain ⟨hnone, rfl⟩ := Catalog.resolveType_eq_error_iff.mp h
    exact ⟨_, ⟨f, table, hf, htable, hnone, Or.inl rfl⟩, rfl⟩
  · rcases bind_eq_error_iff.mp h with h | ⟨_, -, h⟩
    · obtain ⟨p, hp, h⟩ := exists_of_mapM_eq_error h
      obtain ⟨hnone, rfl⟩ := Catalog.resolveType_eq_error_iff.mp (map_eq_error_iff.mp h)
      exact ⟨_, ⟨f, table, hf, htable, hnone, Or.inr ⟨p, hp, rfl⟩⟩, rfl⟩
    · cases h

/-! ### All functions -/

/-- What stands for a function in the program, and what is recorded of it: its prototype, or a comment and a diagnostic
on a type that is not known. -/
inductive Entry (c : Catalog) (name : String) : String → List Diagnostic → Prop
  | prototype {text : String} (h : IsPrototype c name text) : Entry c name text []
  | unknown {type message : String} (h : Misses c name type)
      (hmessage : message = (Error.unknownType name type).message) :
      Entry c name (target.comment message) [⟨name, message⟩]

/-- The lines that compare the type of a function with that of its prototype. -/
def assertion (name : String) : List String :=
  ["static_assert(", "    std::is_same<", "        decltype(" ++ name ++ "),",
    "        decltype(generated_" ++ name ++ ")", "    >::value,", "    \"" ++ name ++ " prototype mismatch\"", ");"]

theorem check_eq_joinWith (name : String) : check name = Text.joinWith "\n" (assertion name) := by
  have hcheck : check name = "static_assert(\n    std::is_same<\n" ++ ("        decltype(" ++ name ++ "),\n") ++
      ("        decltype(generated_" ++ name ++ ")\n") ++ "    >::value,\n" ++
      ("    \"" ++ name ++ " prototype mismatch\"\n);") := rfl
  -- The line ends are split off the fixed texts that hold them.
  have hopening : "static_assert(\n    std::is_same<\n" =
    "static_assert(" ++ ("\n" ++ ("    std::is_same<" ++ "\n")) := by decide
  have hfirst : "),\n" = ")," ++ "\n" := by decide
  have hsecond : ")\n" = ")" ++ "\n" := by decide
  have hvalue : "    >::value,\n" = "    >::value," ++ "\n" := by decide
  have hclosing : " prototype mismatch\"\n);" = " prototype mismatch\"" ++ ("\n" ++ ");") := by decide
  rw [hcheck, hopening, hfirst, hsecond, hvalue, hclosing]
  simp only [assertion, Text.joinWith, String.append_assoc]

theorem checks_eq_joinWith (names : List String) : checks names = Text.joinWith "\n" (names.flatMap assertion) := by
  simp only [checks, Text.joinWith_eq_intercalate]
  induction names with
  | nil => rfl
  | cons name rest ih =>
    by_cases hrest : rest = []
    · subst hrest
      simp [check_eq_joinWith, Text.joinWith_eq_intercalate]
    · have hmap : rest.map check ≠ [] := mt List.map_eq_nil_iff.mp hrest
      have hflat : rest.flatMap assertion ≠ [] := by
        obtain ⟨other, more, rfl⟩ := List.exists_cons_of_ne_nil hrest
        exact List.cons_ne_nil _ _
      have hname : assertion name ≠ [] := List.cons_ne_nil _ _
      rw [List.map_cons, List.flatMap_cons, String.intercalate_cons_of_ne_nil hmap, ih, check_eq_joinWith,
        Text.joinWith_eq_intercalate, String.intercalate_append_of_ne_nil hname hflat]

/-- The lines of an assertion are lines if its name is part of one. -/
theorem assertion_lines (h : '\n' ∉ name.toList) :
    ∀ line ∈ assertion name, '\n' ∉ line.toList ∧ Text.isBlankText line = false := by
  simp [assertion, h, Text.isBlankText, Text.isBlank]

/-- The functions whose prototypes are declared. -/
def declared (c : Catalog) (names : List String) : List String := names.filter fun name => (rendering c name).isOk

theorem mem_declared_iff (hnamed : ∀ name f, c.function? name = some f → f.name = name) :
    name ∈ declared c names ↔ name ∈ names ∧ ∃ text, IsPrototype c name text := by
  simp only [declared, List.mem_filter, isOk_iff, rendering_eq_ok_iff hnamed]

/-- The name of a function is kept if its prototype is declared. -/
def keep (name : String) (kept : List String) : Except Error String → List String
  | .ok _ => kept ++ [name]
  | .error _ => kept

theorem determined : target.toRenderer.Determined rendering fun c name kept => keep name kept (rendering c name) := by
  intro name r
  have hrender : target.render name = (Gen.catalog >>= fun c => Gen.ofExcept (c.requireFunction name) >>= fun f =>
      Gen.ofExcept (render c.types f) >>= fun text => Gen.modifyState (· ++ [name]) >>= fun _ => pure text) := rfl
  rw [hrender, Gen.run_noting, ← rendering]
  beta_reduce
  cases rendering r.session.catalog name <;> rfl

theorem foldl_keep (kept : List String) :
    names.foldl (fun kept name => keep name kept (rendering c name)) kept = kept ++ declared c names := by
  induction names generalizing kept with
  | nil => exact (List.append_nil kept).symm
  | cons name rest ih =>
    rw [List.foldl_cons, ih, declared, declared, List.filter_cons]
    cases rendering c name with
    | ok => exact List.append_assoc ..
    | error => rfl

theorem rendering_perFunction (hc : c.validate = .ok ()) (hname : name ∈ Entries.names c.functions) :
    PerFunction (rendering c name) := by
  obtain ⟨f, hf, hrequire⟩ := Catalog.exists_requireFunction hname
  obtain ⟨table, htable⟩ := Catalog.exists_params_of_validate hc hf
  rw [rendering, hrequire]
  exact render_perFunction htable

/-- The program: around the inputs and the prototypes stand what is included, and a main function with the assertions. -/
def programText (inputs : Inputs) (prototypes asserted : String) : String :=
  "#include <igraph.h>\n\n#include <cstdio>\n#include <type_traits>\n\n" ++ textsOf inputs.preamble ++ prototypes ++
    ("\nvoid main() \x7b\n" ++ asserted ++ "\n\n    printf(\"Everything OK!\");\n\x7d\n" ++ textsOf inputs.epilogue)

theorem fill_skeleton (asserted : String) : skeleton.fill [("checks", asserted)] =
    .ok ("\nvoid main() \x7b\n" ++ asserted ++ "\n\n    printf(\"Everything OK!\");\n\x7d\n") := by
  simp [skeleton, Template.Skeleton.fill, Template.Skeleton.fillPart, Entries.get?, Except.map, String.append_assoc]

theorem run_generate (inputs : Inputs) (r : Run (List String)) :
    (target.generate inputs).run.run r =
      match target.renderAll.run.run r with
      | (.ok body, r') =>
        (.ok (programText inputs body (indentLines r'.session.config.indent (checks r'.state))), r')
      | (.error e, r') => (.error e, r') := by
  have hcompose : target.generate inputs = (target.renderAll >>= fun body => Gen.session >>= fun session =>
      Gen.state >>= fun names =>
        Gen.ofExcept (skeleton.fill [("checks", indentLines session.config.indent (checks names))]) >>= fun text =>
          pure (includes ++ verbatim inputs.preamble ++ body ++ (text ++ verbatim inputs.epilogue))) := rfl
  have hstate : ∀ r, (Gen.state : Gen (List String) (List String)).run.run r = (.ok r.state, r) := fun _ => rfl
  have hsession : ∀ r, (Gen.session : Gen (List String) Session).run.run r = (.ok r.session, r) := fun _ => rfl
  rw [hcompose, Gen.run_bind]
  rcases target.renderAll.run.run r with ⟨_ | body, r'⟩
  · rfl
  · simp only [Gen.run_bind, hsession, hstate, fill_skeleton]
    rfl

theorem entry_of_rendering (hnamed : ∀ name f, c.function? name = some f → f.name = name)
    (hc : c.validate = .ok ()) (hname : name ∈ Entries.names c.functions) :
    Entry c name (target.shown (name, rendering c name)) (diagnosed? (name, rendering c name)).toList := by
  cases h : rendering c name with
  | ok text => exact .prototype ((rendering_eq_ok_iff hnamed).mp h)
  | error e =>
    obtain ⟨type, hmisses, rfl⟩ := exists_misses_of_rendering hnamed hc hname h
    exact .unknown hmisses rfl

/-- A diagnostic is recorded of every function that is not declared. -/
theorem map_function_diagnosed : ((outcomes rendering c names).filterMap diagnosed?).map (·.function) =
    names.filter fun name => !(rendering c name).isOk := by
  induction names with
  | nil => rfl
  | cons name rest ih =>
    rw [outcomes, List.map_cons, ← outcomes, List.filter_cons]
    cases h : rendering c name with
    | ok text =>
      rw [List.filterMap_cons_none rfl]
      exact ih
    | error e =>
      have hsome : diagnosed? (name, .error e) = some ⟨name, e.message⟩ := rfl
      rw [List.filterMap_cons_some hsome, List.map_cons, ih]
      rfl

/-- What stands for functions and what is recorded of them. -/
def entries (c : Catalog) (names : List String) : List (String × List Diagnostic) :=
  names.map fun name => (target.shown (name, rendering c name), (diagnosed? (name, rendering c name)).toList)

theorem map_fst_entries : (entries c names).map (·.1) = (outcomes rendering c names).map target.shown := by
  rw [entries, outcomes, List.map_map, List.map_map]
  rfl

theorem flatMap_snd_entries : (entries c names).flatMap (·.2) = (outcomes rendering c names).filterMap diagnosed? := by
  rw [entries, outcomes, List.flatMap_map, List.filterMap_map, List.filterMap_eq_flatMap_toList]
  rfl

/-- A program that a session writes around inputs, with the entries of its functions and the functions that are
declared: those all of whose types are known. Each of them is compared once, in the order of the catalog, and no other
is; each of the others has one diagnostic. -/
structure Checked (session : Session) (inputs : Inputs) (text : String) (session' : Session)
    (entries : List (String × List Diagnostic)) (declared : List String) : Prop where
  written : ∃ asserted, Indented session.config.indent ("\n".intercalate (declared.flatMap assertion)) asserted ∧
    text = programText inputs (String.join (entries.map (·.1))) asserted
  /-- The lines of an assertion are indented as they are, unless the name of a function breaks one of them. -/
  asserted : (∀ name ∈ declared, '\n' ∉ name.toList) →
    text = programText inputs (String.join (entries.map (·.1)))
      ("\n".intercalate ((declared.flatMap assertion).map (session.config.indent ++ ·)))
  each : List.Forall₂ (fun name entry => Entry session.catalog name entry.1 entry.2) session.generatable.2 entries
  declared_iff : ∀ name, name ∈ declared ↔
    name ∈ session.generatable.2 ∧ ∃ text, IsPrototype session.catalog name text
  known_iff : ∀ name, (∃ text, IsPrototype session.catalog name text) ↔ TypesKnown session.catalog name
  order : declared.Sublist (Entries.names session.catalog.functions)
  nodup : declared.Nodup
  diagnosed : session'.diagnostics = session.diagnostics ++ entries.flatMap (·.2)
  others : (entries.flatMap (·.2)).map (·.function) = session.generatable.2.filter (· ∉ declared)

/-- What is compared with the library are the functions that have been declared. -/
theorem checked_of_validate (strict : Bool) (loads : List Load)
    (hc : ((Catalog.empty strict).run loads).validate = .ok ()) {files : Files} {docFolder? : Option String}
    {g : Generator} (hg : Generator.ofName? files docFolder? "DebugValidateFunctions" = some g) {session : Session}
    (hsession : session.catalog = (Catalog.empty strict).run loads) (inputs : Inputs) :
    ∃ text session' entries declared, g.generate session inputs = (.ok text, session') ∧
      Checked session inputs text session' entries declared := by
  cases hg
  have hloaded := (Catalog.loaded_empty strict).run loads
  rw [List.nil_append, ← hsession] at hloaded
  rw [← hsession] at hc
  have hnamed : ∀ name f, session.catalog.function? name = some f → f.name = name :=
    fun _ _ => hloaded.name_of_function?
  have hnames := session.generatable_subset
  obtain ⟨decisions, hrun⟩ := determined.run_renderAll (r := ⟨session, []⟩) fun name hname =>
    rendering_perFunction hc (hnames hname)
  have hgenerate : ((⟨List String, [], target⟩ : Generator).generate session inputs) =
      (((target.generate inputs).run.run ⟨session, []⟩).1,
        ((target.generate inputs).run.run ⟨session, []⟩).2.session) := rfl
  rw [hgenerate, run_generate, hrun]
  have hsublist : (declared session.catalog session.generatable.2).Sublist
      (Entries.names session.catalog.functions) := by
    refine List.filter_sublist.trans ?_
    rw [Session.generatable, Session.keep_snd]
    exact List.filter_sublist
  refine ⟨_, _, entries session.catalog session.generatable.2, declared session.catalog session.generatable.2, rfl, ?_⟩
  refine ⟨?_, fun hlines => ?_, ?_, fun name => mem_declared_iff hnamed, fun name => exists_isPrototype_iff, hsublist,
    (hloaded.functions.names ▸ nodup_eraseDups _).sublist hsublist, ?_, ?_⟩
  · rw [← Text.joinWith_eq_intercalate, ← checks_eq_joinWith, map_fst_entries, after, foldl_keep, List.nil_append]
    exact ⟨_, indented_indentLines _ _, rfl⟩
  · have hassertions : ∀ line ∈ (declared session.catalog session.generatable.2).flatMap assertion,
        '\n' ∉ line.toList ∧ Text.isBlankText line = false := by
      intro line hline
      obtain ⟨name, hname, hline⟩ := List.mem_flatMap.mp hline
      exact assertion_lines (hlines name hname) line hline
    rw [← Text.joinWith_eq_intercalate, ← indentLines_joinWith hassertions, ← checks_eq_joinWith, map_fst_entries, after,
      foldl_keep, List.nil_append]
  · rw [entries, List.forall₂_map_right_iff, List.forall₂_same]
    exact fun name hname => entry_of_rendering hnamed hc (hnames hname)
  · rw [flatMap_snd_entries, after]
  · rw [flatMap_snd_entries, map_function_diagnosed]
    refine List.filter_congr fun name hname => ?_
    simp [declared, hname]

/-- The first function is declared and compared; the parameter of the second has a type that is not known. -/
theorem checked_of_validate_mixed :
    let c := (Catalog.empty true).run [
      .functions [("f", .map [("PARAMS", .text "INT x")]), ("g", .map [("PARAMS", .text "X y")])],
      .types [("INT", .map [("CTYPE", .text "int")]), ("ERROR", .map [])]]
    let session : Session := .start c "DebugValidateFunctions" .default
    let inputs : Inputs := ⟨[⟨"a.h", "/* a */\n"⟩], []⟩
    c.validate = .ok () ∧ session.generatable.2 = ["f", "g"] ∧ declared c ["f", "g"] = ["f"] ∧
      ∃ text session' entries names, Checked session inputs text session' entries names ∧
        text = "#include <igraph.h>\n\n#include <cstdio>\n#include <type_traits>\n\n" ++ "/* a */\n" ++
          "ERROR generated_f(int x);\n" ++ "// Unknown type 'X' in function 'g'\n" ++ "\nvoid main() \x7b\n" ++
          "    static_assert(\n        std::is_same<\n            decltype(f),\n" ++
          "            decltype(generated_f)\n        >::value,\n        \"f prototype mismatch\"\n    );" ++
          "\n\n    printf(\"Everything OK!\");\n\x7d\n" ∧
        session'.diagnostics = [⟨"g", "Unknown type 'X' in function 'g'"⟩] := by
  intro c session inputs
  have hc : c.validate = .ok () := by decide +kernel
  have hg : Generator.ofName? .empty none "DebugValidateFunctions" = some ⟨List String, [], target⟩ := rfl
  obtain ⟨text, session', entries, names, hgenerate, hchecked⟩ :=
    checked_of_validate true _ hc hg (show session.catalog = c from rfl) inputs
  refine ⟨hc, by decide +kernel, by decide +kernel, text, session', entries, names, hchecked, ?_, ?_⟩
  · refine Except.ok.inj ((congrArg Prod.fst hgenerate).symm.trans ?_)
    decide +kernel
  · refine (congrArg (·.2.diagnostics) hgenerate).symm.trans ?_
    decide +kernel

end Target.Check.Prototype
end Bindery
