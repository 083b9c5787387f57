import Bindery.Proofs.Target.Aliases
import Bindery.Proofs.Target.Renders

/-! # What is made an alias

The library in Python lists the spellings of enumerations and of bit fields above its declarations, each kind in a
section of its own. The two sections have the spellings that occur in the functions that were rendered, and a rendering
that fails, wherever it does, leaves none behind (`Library.functions_listed`). -/

namespace Bindery.Target.Python.Library
open Renderer (after mem_outcomes_iff map_fst_outcomes)
variable {r : Run Aliases} {uses : List (TypeInfo × String)} {x : String}

/-- A type occurs in the declaration of a function under a spelling: as what is returned, or as an argument. -/
inductive Occurs (s : Signature) : TypeInfo → String → Prop
  | returned {result : String} (h : resultType s = .ok result) : Occurs s s.returnType result
  | argument {p : TypedParam} {spelled : String} (hp : p ∈ s.params) (h : CallSite.pythonTypes.Gives s p spelled) :
      Occurs s p.type spelled

theorem mem_uses_iff_occurs {s : Signature} {text : String} (h : render s = .ok (text, uses)) {t : TypeInfo} :
    (t, x) ∈ uses ↔ Occurs s t x := by
  rw [mem_uses_iff h]
  constructor
  · rintro (⟨result, hresult, heq⟩ | ⟨p, hp, c, hc, heq⟩) <;> cases heq
    · exact .returned hresult
    · exact .argument hp ⟨c, hc, rfl⟩
  · rintro (hresult | ⟨hp, c, hc, rfl⟩)
    · exact Or.inl ⟨_, hresult, rfl⟩
    · exact Or.inr ⟨_, hp, c, hc, rfl⟩

theorem map_rendering_eq_ok_iff {c : Catalog} {name text : String} : (rendering c name).map (·.1) = .ok text ↔
    ∃ s uses, Signature.resolve c name = .ok s ∧ render s = .ok (text, uses) := by
  simp only [map_eq_ok_iff, rendering, bind_eq_ok_iff]
  constructor
  · rintro ⟨⟨text', uses⟩, ⟨s, hs, hrender⟩, rfl⟩
    exact ⟨s, uses, hs, hrender⟩
  · rintro ⟨s, uses, hs, hrender⟩
    exact ⟨(text, uses), ⟨s, hs, hrender⟩, rfl⟩

/-! ### The sections -/

/-- A section that makes names aliases: a heading, a line for each name in their order, and an empty line. Without names
there is no section. -/
inductive IsSection (kind : String) : List String → String → Prop
  | none : IsSection kind [] ""
  | lines {names : List String} (h : names ≠ []) :
      IsSection kind names ("# Set up aliases for all " ++ kind ++ " types\n\n" ++
        String.join (names.map fun name => name ++ " = c_int\n") ++ "\n")

/-- A block of declarations below the sections of enumerations and of bit fields. -/
def IsBlock (a : Aliases) (declarations text : String) : Prop :=
  ∃ enums bitfields, IsSection "enum" a.enums.members enums ∧ IsSection "bitfield" a.bitfields.members bitfields ∧
    text = enums ++ bitfields ++ "# Add argument and return types for functions imported from igraph\n" ++ declarations

theorem isSection_iff {kind text : String} {names : NameSet} :
    IsSection kind names.members text ↔ text = aliasLines kind names := by
  rw [aliasLines]
  generalize names.members = names
  cases names with
  | nil =>
    rw [if_pos rfl]
    constructor
    · rintro (_ | h)
      · rfl
      · exact absurd rfl h
    · rintro rfl
      exact .none
  | cons name rest =>
    have hne : name :: rest ≠ [] := List.cons_ne_nil name rest
    rw [if_neg hne]
    constructor
    · rintro ⟨⟩
      rfl
    · rintro rfl
      exact .lines hne

theorem isBlock_iff {a : Aliases} {declarations text : String} :
    IsBlock a declarations text ↔ text = blockText a declarations := by
  simp only [IsBlock, isSection_iff]
  constructor
  · rintro ⟨_, _, rfl, rfl, rfl⟩
    rfl
  · rintro rfl
    exact ⟨_, _, rfl, rfl, rfl⟩

/-- How the block of all functions is made from a run, and what it makes aliases. The block comes out exactly if every
rendering succeeds or fails for a reason that concerns its function alone, as they do where the catalog is valid. Each
section then has a line for each name of its kind, in ascending order. The names are those there were and the spellings
under which types of the kind occur in the functions that were rendered. A rendering that fails leaves the run as it
was. -/
structure Listed (r : Run Aliases) : Prop where
  ok_iff : ∀ text r', target.functions.run.run r = (.ok text, r') ↔
    ∃ results, results.map (·.1) = r.session.generatable.2 ∧ renderer.RendersEach r.decided results r' ∧
      IsBlock r'.state (String.join (results.map renderer.shown)) text
  complete : r.session.catalog.validate = .ok () → ∃ text r', target.functions.run.run r = (.ok text, r')
  declared : ∀ results r', renderer.RendersEach r.decided results r' → ∀ name text, (name, .ok text) ∈ results →
    ∃ s result arguments, Signature.resolve r.session.catalog name = .ok s ∧ resultType s = .ok result ∧
      CallSite.pythonTypes.arguments s = .ok arguments ∧ text = layout s.name result arguments
  mem_iff : ∀ results r', renderer.RendersEach r.decided results r' → ∀ (kind : AliasKind) (x : String),
    x ∈ kind.names r'.state ↔ x ∈ kind.names r.state ∨
      ∃ name text s t, (name, .ok text) ∈ results ∧ Signature.resolve r.session.catalog name = .ok s ∧
        kind.marks t = true ∧ Occurs s t x
  ascending : ∀ (kind : AliasKind) (a : Aliases), (kind.names a).members.Pairwise (· < ·)
  line : ∀ text r', target.functions.run.run r = (.ok text, r') → ∀ (kind : AliasKind) (x : String),
    x ∈ kind.names r'.state → Text.contains (x ++ " = c_int\n") text
  failure : ∀ name e r', (renderer.render name).run.run r = (.error e, r') → r' = r

/-- Whatever fails in between, the sections have the spellings of the functions that were rendered, and no others. -/
theorem functions_listed (r : Run Aliases) : Listed r := by
  have hcatalog : r.decided.session.catalog = r.session.catalog ∧ r.decided.state = r.state := by
    obtain ⟨decisions, hdecided⟩ := r.exists_decided
    rw [hdecided]
    exact ⟨rfl, rfl⟩
  obtain ⟨hcatalog, hstate⟩ := hcatalog
  refine ⟨fun text r' => ?_, fun hc => ?_, fun results r' hresults name text hmem => ?_,
    fun results r' hresults kind x => ?_, fun kind a => (kind.names a).ascending, fun text r' h kind x hx => ?_,
    fun name e r' h => ?_⟩
  · simp only [isBlock_iff]
    exact functions_eq_ok_iff
  · refine ⟨_, _, functions_eq_ok_iff.mpr ⟨_, map_fst_outcomes _ _, determined.rendersEach fun name hname => ?_, rfl⟩⟩
    rw [hcatalog]
    refine PerFunction.map _ (.bind (Signature.resolve_perFunction hc (r.session.generatable_subset hname)) ?_)
    exact render_perFunction
  · obtain ⟨names, rfl, -, -⟩ := determined.rendersEach_iff.mp hresults
    rw [hcatalog, mem_outcomes_iff, map_rendering_eq_ok_iff] at hmem
    obtain ⟨-, s, uses, hs, hrender⟩ := hmem
    obtain ⟨result, arguments, hresult, harguments, rfl, -⟩ := render_eq_ok_iff.mp hrender
    exact ⟨s, result, _, hs, hresult, map_eq_ok_iff.mpr ⟨arguments, harguments, rfl⟩, rfl⟩
  · -- A function that failed is among the names too, but has no uses.
    obtain ⟨names, rfl, rfl, -⟩ := determined.rendersEach_iff.mp hresults
    simp only [hcatalog, mem_outcomes_iff, map_rendering_eq_ok_iff]
    rw [after, hcatalog, hstate, foldl_noteAll, kind.mem_names_noteAll_iff]
    refine or_congr_right ?_
    constructor
    · rintro ⟨⟨t, spelled⟩, huse, hmarks, rfl⟩
      obtain ⟨name, hname, huse⟩ := List.mem_flatMap.mp huse
      obtain ⟨s, hs, text, uses, hrender, huse⟩ := mem_usesOf_iff.mp huse
      exact ⟨name, text, s, t, ⟨hname, s, uses, hs, hrender⟩, hs, hmarks, (mem_uses_iff_occurs hrender).mp huse⟩
    · rintro ⟨name, text, s, t, ⟨hname, s', uses, hs', hrender⟩, hs, hmarks, hoccurs⟩
      cases hs.symm.trans hs'
      have huse := mem_usesOf_iff.mpr ⟨s, hs, text, uses, hrender, (mem_uses_iff_occurs hrender).mpr hoccurs⟩
      exact ⟨(t, x), List.mem_flatMap.mpr ⟨name, hname, huse⟩, hmarks, rfl⟩
  · obtain ⟨⟨declarations, rfl⟩, -⟩ := functions_eq_ok h
    exact contains_blockText (has_iff.mpr ⟨kind, hx⟩) declarations
  · rw [run_render] at h
    obtain ⟨herror, rfl⟩ := Prod.mk.inj h
    have hnone : usesOf r.session.catalog name = [] := by
      rw [usesOf]
      cases hrendering : rendering r.session.catalog name with
      | error => rfl
      | ok out =>
        rw [hrendering] at herror
        cases herror
    rw [hnone]
    rfl

/-- A type of this kind, by its type of C. -/
def typeOf (name cType flag : String) : String × TypeInfo :=
  (name, { TypeInfo.new name with attrs := [("CTYPE", .text cType)], flags := NameSet.empty.insert flag })

/-- A catalog of three functions, of which the second fails at a type that cannot be passed. -/
def catalogListing : Catalog where
  functions := [("f", { Function.new "f" true with attrs := [("PARAMS", .text "MODE m")] }),
    ("g", { Function.new "g" true with attrs := [("PARAMS", .text "KIND k, BARE b")] }),
    ("h", { Function.new "h" true with attrs := [("PARAMS", .text "FLAGS b, LAYOUT l, MODE m")] })]
  types := [typeOf "MODE" "mode_t" "enum", typeOf "KIND" "kind_t" "enum", typeOf "LAYOUT" "layout_t" "enum",
    typeOf "FLAGS" "flags_t" "bitfield", ("BARE", .new "BARE"),
    ("ERROR", { TypeInfo.new "ERROR" with attrs := [("CTYPE", .text "int")] })]
  strict := true

/-- The enumeration `kind_t` occurs in the function that fails only, and is not made an alias. -/
theorem functions_listed_failing :
    let r : Run Aliases := ⟨.start catalogListing "PythonCTypes" .default, .empty⟩
    Listed r ∧ (target.functions.run.run r).1 =
      .ok ("# Set up aliases for all enum types\n\nlayout_t = c_int\nmode_t = c_int\n\n" ++
        "# Set up aliases for all bitfield types\n\nflags_t = c_int\n\n" ++
        "# Add argument and return types for functions imported from igraph\n" ++
        "\nf = _lib.f\nf.restype = c_int\nf.argtypes = [mode_t]\n" ++
        "\n# g: calling convention unsupported: type BARE has no CTYPE for mode IN\n" ++
        "\nh = _lib.h\nh.restype = c_int\nh.argtypes = [flags_t, layout_t, mode_t]\n") := by
  intro r
  exact ⟨functions_listed r, by decide +kernel⟩

end Bindery.Target.Python.Library
