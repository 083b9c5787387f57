import Bindery.Proofs.Target.OneByOne
import Bindery.Target.Named

/-! # What targets read of files

Only the functions of R are documented, and of the files only the folder of documentation is read for them. Where this
folder reads the same among two states of the files, every target generates the same from both (`generate_congr`). -/

namespace Bindery

/-! ### Rendering alike -/

/-- Two renderers that do the same to all runs with a property. -/
theorem Renderer.renderEach_congr {σ : Type} {R₁ R₂ : Renderer σ} {P : Run σ → Prop}
    (hcomment : R₁.comment = R₂.comment)
    (hrecord : ∀ r function e, P r → P { r with session := r.session.record function e })
    (hrender : ∀ function r, P r → (R₁.render function).run.run r = (R₂.render function).run.run r ∧
      P ((R₂.render function).run.run r).2) (functions : List String) {r : Run σ} (hr : P r) :
    (R₁.renderEach functions).run.run r = (R₂.renderEach functions).run.run r := by
  induction functions generalizing r with
  | nil => rfl
  | cons function rest ih =>
    obtain ⟨hsame, hkeeps⟩ := hrender function r hr
    rw [run_renderEach_cons, run_renderEach_cons, run_guarded, run_guarded, hsame, hcomment]
    rcases h : (R₂.render function).run.run r with ⟨e | text, r₁⟩ <;> rw [h] at hkeeps
    · cases he : e.isPerFunction
      · simp only [he, Bool.false_eq_true, if_false]
      · simp only [he, if_true, ih (hrecord r₁ function e hkeeps)]
    · simp only [ih hkeeps]

/-- Two targets whose functions are rendered alike. -/
theorem Target.Plain.generate_congr {σ : Type} {t₁ t₂ : Target σ} (h₁ : t₁.Plain) (h₂ : t₂.Plain) (inputs : Inputs)
    {r : Run σ} (heach : (t₁.renderEach r.session.generatable.2).run.run r.decided =
      (t₂.renderEach r.session.generatable.2).run.run r.decided) :
    (t₁.generate inputs).run.run r = (t₂.generate inputs).run.run r := by
  rw [h₁.run_generate, h₂.run_generate, heach]

theorem Generator.generate_eq {σ : Type} {t₁ t₂ : Target σ} {start : σ} (h : ∀ inputs session,
    (t₁.generate inputs).run.run ⟨session, start⟩ = (t₂.generate inputs).run.run ⟨session, start⟩) :
    (⟨σ, start, t₁⟩ : Generator).generate = (⟨σ, start, t₂⟩ : Generator).generate := by
  funext session inputs
  exact congrArg (fun p => (p.1, p.2.session)) (h inputs session)

/-! ### Documentation -/

namespace Docs
variable {files₁ files₂ : Files} {docs : Docs}

theorem text?_folder (files : Files) (docs : Docs) (function : String) :
    (docs.text? files function).1.folder = docs.folder := by
  rw [text?]
  split
  · rfl
  · split <;> rfl

theorem text?_congr (h : readFolder files₁ docs.folder = readFolder files₂ docs.folder) (function : String) :
    docs.text? files₁ function = docs.text? files₂ function := by
  rw [text?, text?, h]

end Docs

namespace Target.R.Wrapper
open Gen

theorem run_documentation (files : Files) (function : String) (r : Run (Option Docs)) :
    (documentation files function).run.run r =
      match r.state with
      | none => (.ok "", r)
      | some docs => ((docs.text? files function).2.map fun doc? => (doc?.map Docs.comments).getD "",
          { r with state := some (docs.text? files function).1 }) := by
  obtain ⟨session, _ | docs⟩ := r
  · rfl
  · have hstate : (state : Gen (Option Docs) (Option Docs)).run.run ⟨session, some docs⟩ =
        (.ok (some docs), ⟨session, some docs⟩) := rfl
    have hmodify : (modifyState fun _ => some (docs.text? files function).1 : Gen (Option Docs) Unit).run.run
        ⟨session, some docs⟩ = (.ok (), ⟨session, some (docs.text? files function).1⟩) := rfl
    rw [documentation, run_bind, hstate]
    simp only [run_bind, hmodify, run_ofExcept]
    cases (docs.text? files function).2 <;> rfl

theorem run_render (files : Files) (function : String) (r : Run (Option Docs)) :
    ((target files).render function).run.run r =
      match Signature.resolve r.session.catalog function with
      | .error e => (.error e, r)
      | .ok s =>
        match (documentation files function).run.run r with
        | (.error e, r') => (.error e, r')
        | (.ok docs, r') => ((render s).map (docs ++ ·), r') := by
  have hcatalog : (catalog : Gen (Option Docs) Catalog).run.run r = (.ok r.session.catalog, r) := rfl
  simp only [target, run_bind, hcatalog, run_ofExcept]
  rcases Signature.resolve r.session.catalog function with e | s
  · rfl
  · rcases hdocs : (documentation files function).run.run r with ⟨e | docs, r'⟩
    · simp only [hdocs]
    · simp only [hdocs]
      cases render s <;> rfl

/-- The state has a folder of documentation that reads the same among two states of the files, if it has any. -/
def ReadsAlike (files₁ files₂ : Files) (r : Run (Option Docs)) : Prop :=
  ∀ docs, r.state = some docs → Docs.readFolder files₁ docs.folder = Docs.readFolder files₂ docs.folder

variable {files₁ files₂ : Files}

theorem ReadsAlike.of_state {r r' : Run (Option Docs)} (h : ReadsAlike files₁ files₂ r) (hstate : r'.state = r.state) :
    ReadsAlike files₁ files₂ r' := fun docs hdocs => h docs (hstate.symm.trans hdocs)

theorem render_congr (function : String) {r : Run (Option Docs)} (h : ReadsAlike files₁ files₂ r) :
    ((target files₁).render function).run.run r = ((target files₂).render function).run.run r ∧
      ReadsAlike files₁ files₂ (((target files₂).render function).run.run r).2 := by
  have hdocs : (documentation files₁ function).run.run r = (documentation files₂ function).run.run r ∧
      ReadsAlike files₁ files₂ ((documentation files₂ function).run.run r).2 := by
    rw [run_documentation, run_documentation]
    rcases hstate : r.state with _ | docs
    · exact ⟨rfl, h⟩
    · refine ⟨by simp only [Docs.text?_congr (h docs hstate)], ?_⟩
      rintro _ ⟨⟩
      rw [Docs.text?_folder]
      exact h docs hstate
  rw [run_render, run_render, hdocs.1]
  rcases Signature.resolve r.session.catalog function with e | s
  · exact ⟨rfl, h⟩
  · have hkeeps := hdocs.2
    rcases hrun : (documentation files₂ function).run.run r with ⟨e | text, r'⟩ <;> rw [hrun] at hkeeps
    · exact ⟨rfl, hkeeps⟩
    · exact ⟨rfl, hkeeps⟩

-- By unfolding alone the renderings would be compared first, which takes long to fail.
theorem comment_eq : (target files₁).comment = (target files₂).comment := by simp only [target]

theorem name_eq (files : Files) : (target files).name = "RR" := by simp only [target]

theorem generate_congr (inputs : Inputs) {r : Run (Option Docs)} (h : ReadsAlike files₁ files₂ r) :
    ((target files₁).generate inputs).run.run r = ((target files₂).generate inputs).run.run r := by
  have hplain : ∀ files, (target files).Plain := fun _ => ⟨rfl, rfl, rfl, rfl⟩
  refine (hplain files₁).generate_congr (hplain files₂) inputs ?_
  exact Renderer.renderEach_congr (P := ReadsAlike files₁ files₂) comment_eq (fun _ _ _ hr => hr.of_state rfl)
    (fun function _ hr => render_congr function hr) _ (h.of_state rfl)

end Target.R.Wrapper

/-! ### All targets -/

namespace Generator
variable {files₁ files₂ : Files} {docFolder? : Option String} {name : String} {g₁ : Generator}

/-- From two states of the files a target generates the same, if what it reads of documentation is the same. -/
theorem exists_generate_eq (hg : ofName? files₁ docFolder? name = some g₁)
    (hdocs : name = "RR" → ∀ folder, docFolder? = some folder →
      Docs.readFolder files₁ folder = Docs.readFolder files₂ folder) :
    ∃ g₂, ofName? files₂ docFolder? name = some g₂ ∧ g₂.target.name = g₁.target.name ∧ g₂.generate = g₁.generate := by
  by_cases hname : name = "RR"
  · subst hname
    cases hg
    have hname : (Target.R.Wrapper.target files₂).name = (Target.R.Wrapper.target files₁).name := by
      rw [Target.R.Wrapper.name_eq, Target.R.Wrapper.name_eq]
    refine ⟨⟨Option Docs, docFolder?.map Docs.unread, Target.R.Wrapper.target files₂⟩, rfl, hname, ?_⟩
    refine generate_eq fun inputs session => Target.R.Wrapper.generate_congr inputs fun docs hstate => ?_
    obtain ⟨folder, hfolder, rfl⟩ := Option.map_eq_some_iff.mp hstate
    exact (hdocs rfl folder hfolder).symm
  · refine ⟨g₁, ?_, rfl, rfl⟩
    unfold ofName? at hg
    split at hg <;> cases hg <;> first | exact absurd rfl hname | rfl

end Generator
end Bindery
