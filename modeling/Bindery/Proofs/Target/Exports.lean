import Bindery.Proofs.Catalog.Loads
import Bindery.Proofs.Signature
import Bindery.Proofs.Target.Documentation
import Bindery.Proofs.Target.Parts
import Bindery.Target.R.Namespace
import Mathlib.Data.List.Infix

/-! # What R exports

A function of R is defined under the name that the package exports it by, and a mark in front of it says whether it
belongs to the interface. The list of exports is written for every function, also for one that is internal and has no
mark. So the two agree exactly on the functions that are not internal. A name is any text; even so, no definition can be
read both with the mark and without it (`mark_append_ne`). -/

namespace Bindery.Target.R

/-! ### Marks -/

/-- The characters of the mark. -/
def mark : List Char := "#' @export\n".toList

/-- What stands between the name of a function and its arguments. -/
def arrow : List Char := " <- function(".toList

/-- A text begins with the definition of a function of this name, without a mark. -/
def Defines (wrapper name : String) : Prop := ∃ rest, wrapper = name ++ (" <- function(" ++ rest)

/-- A text begins with a mark and the definition of a function of this name. -/
def Marks (wrapper name : String) : Prop := ∃ rest, wrapper = "#' @export\n" ++ (name ++ (" <- function(" ++ rest))

/-- A line exports a function of this name. -/
def Lists (entry name : String) : Prop := entry = s!"export({name})\n"

/-- What is left of the mark behind any beginning of it is not how the arrow begins. -/
theorem mark_left_ne {m x y : List Char} (hm : m <:+ mark) (hne : m ≠ []) : m ++ x ≠ arrow ++ y := by
  intro h
  have hapart : ∀ m ∈ mark.tails, m ≠ [] → ¬m.take 2 <+: arrow := by decide
  have htake : m.take 2 <+: arrow ++ y := h ▸ (List.take_prefix 2 m).trans (List.prefix_append m x)
  refine hapart m ((List.mem_tails ..).mpr hm) hne (List.prefix_of_prefix_length_le htake (List.prefix_append arrow y) ?_)
  exact (List.length_take_le 2 m).trans (by decide)

theorem mark_append_ne (name rest rest' : List Char) : mark ++ (name ++ (arrow ++ rest)) ≠ name ++ (arrow ++ rest') := by
  intro h
  rcases List.append_eq_append_iff.mp h with ⟨name', hname, h'⟩ | ⟨m, hm, h'⟩
  · -- The name begins with the mark itself: both texts go on behind it in the same way.
    rw [hname, List.append_assoc] at h'
    exact mark_append_ne name' rest rest' h'
  · -- The name ends within the mark.
    by_cases hnil : m = []
    · rw [hnil, List.append_nil] at hm
      rw [hnil, List.nil_append, ← hm] at h'
      exact mark_left_ne List.suffix_rfl (by decide) h'.symm
    · exact mark_left_ne ⟨name, hm.symm⟩ hnil h'.symm
termination_by name.length
decreasing_by
  have hpos : 0 < mark.length := by decide
  rw [hname, List.length_append]
  omega

theorem not_defines_of_marks {wrapper name : String} (h : Marks wrapper name) : ¬Defines wrapper name := by
  rintro ⟨rest', rfl⟩
  obtain ⟨rest, hrest⟩ := h
  have hchars := congrArg String.toList hrest
  simp only [String.toList_append] at hchars
  exact mark_append_ne name.toList rest.toList rest'.toList hchars.symm

/-! ### One function in both targets -/

theorem Wrapper.eq_ok_of_run_undocumented {files : Files} {r : Run (Option Docs)} {name text : String}
    (hdocs : r.state = none) (h : (((target files).render name).run.run r).1 = .ok text) :
    ∃ s, Signature.resolve r.session.catalog name = .ok s ∧ render s = .ok text := by
  rw [run_render, run_documentation, hdocs] at h
  cases hs : Signature.resolve r.session.catalog name with
  | error e =>
    rw [hs] at h
    cases h
  | ok s =>
    rw [hs] at h
    obtain ⟨body, hbody, rfl⟩ := map_eq_ok_iff.mp h
    exact ⟨s, rfl, by rw [hbody, String.empty_append]⟩

theorem Namespace.run_render (name : String) (r : Run Unit) :
    (target.render name).run.run r = ((r.session.catalog.requireFunction name).map render, r) := by
  have hcatalog : (Gen.catalog : Gen Unit Catalog).run.run r = (.ok r.session.catalog, r) := rfl
  simp only [target, Gen.run_bind, hcatalog, Gen.run_ofExcept]
  cases r.session.catalog.requireFunction name <;> rfl

/-- What is defined for a function, and what is listed of it. -/
structure Exports (f : Function) (wrapper entry : String) : Prop where
  lists : Lists entry (functionName f)
  marks_iff : Marks wrapper (functionName f) ↔ f.isInternal = false
  defines_iff : Defines wrapper (functionName f) ↔ f.isInternal = true
  agree_iff : (Lists entry (functionName f) ↔ Marks wrapper (functionName f)) ↔ f.isInternal = false

theorem exists_layout_eq (x : Wrapper.Parts) (s : Signature) :
    ∃ rest, x.layout s = Wrapper.exportMark s.function ++ (functionName s.function ++ (" <- function(" ++ rest)) := by
  simp only [Wrapper.Parts.layout, String.append_assoc, toString]
  exact ⟨_, rfl⟩

theorem exports_of_layout (x : Wrapper.Parts) (s : Signature) :
    Exports s.function (x.layout s) (Namespace.render s.function) := by
  obtain ⟨rest, hrest⟩ := exists_layout_eq x s
  have hlists : Lists (Namespace.render s.function) (functionName s.function) := rfl
  cases hinternal : s.function.isInternal with
  | true =>
    rw [Wrapper.exportMark, if_pos hinternal, String.empty_append] at hrest
    have hdefines : Defines (x.layout s) (functionName s.function) := ⟨rest, hrest⟩
    have hmarks : ¬Marks (x.layout s) (functionName s.function) := fun h => not_defines_of_marks h hdefines
    have hmarks_iff := iff_of_false hmarks (ne_false_of_eq_true hinternal)
    exact ⟨hlists, hmarks_iff, iff_of_true hdefines hinternal, (iff_true_left hlists).trans hmarks_iff⟩
  | false =>
    rw [Wrapper.exportMark, if_neg (by simp [hinternal])] at hrest
    have hmarks : Marks (x.layout s) (functionName s.function) := ⟨rest, hrest⟩
    have hdefines := not_defines_of_marks hmarks
    have hmarks_iff := iff_of_true hmarks hinternal
    have hdefines_iff := iff_of_false hdefines (ne_true_of_eq_false hinternal)
    exact ⟨hlists, hmarks_iff, hdefines_iff, (iff_true_left hlists).trans hmarks_iff⟩

/-- What the two targets write of a function, of which one documents nothing. -/
theorem exports_of_render {files : Files} {r₁ : Run (Option Docs)} {r₂ : Run Unit} {name wrapper entry : String}
    (hcatalog : r₁.session.catalog = r₂.session.catalog) (hdocs : r₁.state = none)
    (h₁ : (((Wrapper.target files).render name).run.run r₁).1 = .ok wrapper)
    (h₂ : ((Namespace.target.render name).run.run r₂).1 = .ok entry) :
    ∃ f, r₁.session.catalog.function? name = some f ∧ Exports f wrapper entry := by
  obtain ⟨s, hs, hrender⟩ := Wrapper.eq_ok_of_run_undocumented hdocs h₁
  obtain ⟨x, -, rfl⟩ := Wrapper.render_eq_ok_iff.mp hrender
  obtain ⟨f, hf, hof⟩ := Signature.resolve_eq_ok_iff.mp hs
  obtain ⟨-, -, -, -, rfl, -⟩ := Signature.ofFunction_eq_ok hof
  rw [Namespace.run_render, ← hcatalog, Catalog.requireFunction, hf] at h₂
  cases h₂
  exact ⟨s.function, hf, exports_of_layout x s⟩

/-- A catalog of one function, which is internal if this says so. -/
def catalogOfInternal (yes : String) : Catalog :=
  (Catalog.empty true).run
    [.functions [("igraph_f_a", .map [("INTERNAL", .text yes)])], .types [("ERROR", .map [])]]

/-- A function that is not internal is marked and listed under the name by which it is defined. -/
theorem exports_of_render_marked :
    let wrapper := "#' @export\ngraph.f.a <- function() \x7b\n  # Argument checks\n\n" ++
      "  on.exit( .Call(C_R_igraph_finalizer) )\n" ++
      "  # Function call\n  res <- .Call(C_R_igraph_f_a, )\n  res\n\x7d\n\n"
    let entry := "export(graph.f.a)\n"
    ∃ f, (catalogOfInternal "no").function? "igraph_f_a" = some f ∧ Exports f wrapper entry ∧
      Marks wrapper "graph.f.a" ∧ Lists entry "graph.f.a" := by
  intro wrapper entry
  let r₁ : Run (Option Docs) := ⟨.start (catalogOfInternal "no") "RR" .default, none⟩
  let r₂ : Run Unit := ⟨.start (catalogOfInternal "no") "RNamespace" .default, ()⟩
  have h₁ : (((Wrapper.target .empty).render "igraph_f_a").run.run r₁).1 = .ok wrapper := by decide +kernel
  have h₂ : ((Namespace.target.render "igraph_f_a").run.run r₂).1 = .ok entry := by decide +kernel
  obtain ⟨f, hf, hexports⟩ := @exports_of_render _ r₁ r₂ _ _ _ rfl rfl h₁ h₂
  have hsaid : (r₁.session.catalog.function? "igraph_f_a").map (fun f => (functionName f, f.isInternal)) =
      some ("graph.f.a", false) := by decide +kernel
  rw [hf] at hsaid
  obtain ⟨hname, hinternal⟩ := Prod.mk.inj (Option.some.inj hsaid)
  exact ⟨f, hf, hexports, hname ▸ hexports.marks_iff.mpr hinternal, hname ▸ hexports.lists⟩

/-- An internal function has no mark, and is listed all the same. -/
theorem lists_internal :
    let body := ") \x7b\n  # Argument checks\n\n  on.exit( .Call(C_R_igraph_finalizer) )\n" ++
      "  # Function call\n  res <- .Call(C_R_igraph_f_a, )\n  res\n\x7d\n\n"
    let wrapper := "graph.f.a" ++ (" <- function(" ++ body)
    let r₁ : Run (Option Docs) := ⟨.start (catalogOfInternal "yes") "RR" .default, none⟩
    let r₂ : Run Unit := ⟨.start (catalogOfInternal "yes") "RNamespace" .default, ()⟩
    (((Wrapper.target .empty).render "igraph_f_a").run.run r₁).1 = .ok wrapper ∧ ¬Marks wrapper "graph.f.a" ∧
      ((Namespace.target.render "igraph_f_a").run.run r₂).1 = .ok "export(graph.f.a)\n" := by
  intro body wrapper r₁ r₂
  have hdefines : Defines wrapper "graph.f.a" := ⟨body, rfl⟩
  exact ⟨by decide +kernel, fun h => not_defines_of_marks h hdefines, by decide +kernel⟩

end Bindery.Target.R
