import Bindery.Proofs.Target.OneByOne
import Bindery.Proofs.Target.PerFunction

/-! # Renderings that the catalog determines

A rendering may depend on all that has been done before it. Where the catalog determines its outcome and what it does to
the state of the target, a run over many functions can be told in advance (`Determined.rendersEach_iff`): each function
has its outcome, the changes of the state are made one after the other, and the failures are recorded in their order. -/

namespace Bindery

/-- Deciding which functions are generated changes nothing but the decisions. -/
theorem Run.exists_decided {σ : Type} (r : Run σ) :
    ∃ decisions, r.decided = { r with session := { r.session with decisions := decisions } } := by
  obtain ⟨decisions, hdecisions⟩ := r.session.keep_fst (Entries.names r.session.catalog.functions)
  exact ⟨decisions, congrArg (fun s => { r with session := s }) hdecisions⟩

theorem Session.generatable_subset (s : Session) : s.generatable.2 ⊆ Entries.names s.catalog.functions := by
  intro name hname
  rw [generatable, keep_snd] at hname
  exact List.mem_of_mem_filter hname

/-- What is made of something in the catalog is noted in the state; a failure leaves the run as it was. -/
theorem Gen.run_noting {σ α β : Type} (look : Catalog → Except Error α) (make : Catalog → α → Except Error β)
    (note : β → σ → σ) (text : β → String) (r : Run σ) :
    (Gen.catalog >>= fun c => Gen.ofExcept (look c) >>= fun a => Gen.ofExcept (make c a) >>= fun b =>
        Gen.modifyState (note b) >>= fun _ => pure (text b)).run.run r =
      match look r.session.catalog >>= make r.session.catalog with
      | .ok b => (.ok (text b), { r with state := note b r.state })
      | .error e => (.error e, r) := by
  have hcatalog : (Gen.catalog : Gen σ Catalog).run.run r = (.ok r.session.catalog, r) := rfl
  rw [run_bind, hcatalog]
  simp only [run_bind, run_ofExcept]
  cases look r.session.catalog with
  | error => rfl
  | ok a =>
    simp only [ok_bind]
    cases make r.session.catalog a <;> rfl

namespace Renderer
variable {σ : Type} {R : Renderer σ} {outcome : Catalog → String → Except Error String}
  {change : Catalog → String → σ → σ} {r r' : Run σ} {name : String} {names : List String}

/-- The catalog determines the outcome of a rendering and how the state changes; the session stays as it is. -/
def Determined (R : Renderer σ) (outcome : Catalog → String → Except Error String)
    (change : Catalog → String → σ → σ) : Prop :=
  ∀ (name : String) (r : Run σ), (R.render name).run.run r =
    (outcome r.session.catalog name, { r with state := change r.session.catalog name r.state })

/-- Functions with their outcomes. -/
def outcomes (outcome : Catalog → String → Except Error String) (c : Catalog) (names : List String) :
    List (String × Except Error String) :=
  names.map fun name => (name, outcome c name)

theorem mem_outcomes_iff {c : Catalog} {out : Except Error String} :
    (name, out) ∈ outcomes outcome c names ↔ name ∈ names ∧ outcome c name = out := by
  rw [outcomes, List.mem_map]
  constructor
  · rintro ⟨_, hname, ⟨⟩⟩
    exact ⟨hname, rfl⟩
  · rintro ⟨hname, rfl⟩
    exact ⟨name, hname, rfl⟩

theorem map_fst_outcomes (c : Catalog) (names : List String) : (outcomes outcome c names).map (·.1) = names := by
  simp [outcomes, Function.comp_def]

/-- The run that rendering functions leaves. -/
def after (outcome : Catalog → String → Except Error String) (change : Catalog → String → σ → σ) (r : Run σ)
    (names : List String) : Run σ where
  session := { r.session with
    diagnostics := r.session.diagnostics ++ (outcomes outcome r.session.catalog names).filterMap diagnosed? }
  state := names.foldl (fun state name => change r.session.catalog name state) r.state

theorem after_nil : after outcome change r [] = r := by
  simp [after, outcomes]

theorem after_cons_of_ok {text : String} (h : outcome r.session.catalog name = .ok text) :
    after outcome change r (name :: names) =
      after outcome change { r with state := change r.session.catalog name r.state } names := by
  have hnone : diagnosed? (name, outcome r.session.catalog name) = none := by rw [h, diagnosed?]
  simp [after, outcomes, List.filterMap_cons_none hnone]

theorem after_cons_of_error {e : Error} (h : outcome r.session.catalog name = .error e) :
    after outcome change r (name :: names) = after outcome change
      { session := r.session.record name e, state := change r.session.catalog name r.state } names := by
  have hsome : diagnosed? (name, outcome r.session.catalog name) = some ⟨name, e.message⟩ := by rw [h, diagnosed?]
  simp [after, outcomes, List.filterMap_cons_some hsome, Session.record]

namespace Determined

theorem of_rendersEach (h : R.Determined outcome change) {results : List (String × Except Error String)}
    (hresults : R.RendersEach r results r') :
    results = outcomes outcome r.session.catalog (results.map (·.1)) ∧
      r' = after outcome change r (results.map (·.1)) ∧
      ∀ name ∈ results.map (·.1), PerFunction (outcome r.session.catalog name) := by
  induction hresults with
  | nil r => exact ⟨rfl, after_nil.symm, fun _ hname => nomatch hname⟩
  | text hrender _ ih =>
    obtain ⟨houtcome, rfl⟩ := Prod.mk.inj ((h _ _).symm.trans hrender)
    obtain ⟨hrest, hafter, hper⟩ := ih
    rw [List.map_cons, List.forall_mem_cons, after_cons_of_ok houtcome]
    refine ⟨?_, hafter, .of_eq_ok houtcome, hper⟩
    rw [outcomes, List.map_cons, houtcome]
    exact congrArg _ hrest
  | failure hrender he _ ih =>
    obtain ⟨houtcome, rfl⟩ := Prod.mk.inj ((h _ _).symm.trans hrender)
    obtain ⟨hrest, hafter, hper⟩ := ih
    rw [List.map_cons, List.forall_mem_cons, after_cons_of_error houtcome]
    refine ⟨?_, hafter, houtcome ▸ .error he, hper⟩
    rw [outcomes, List.map_cons, houtcome]
    exact congrArg _ hrest

theorem rendersEach (h : R.Determined outcome change)
    (hper : ∀ name ∈ names, PerFunction (outcome r.session.catalog name)) :
    R.RendersEach r (outcomes outcome r.session.catalog names) (after outcome change r names) := by
  induction names generalizing r with
  | nil =>
    rw [after_nil]
    exact .nil r
  | cons name rest ih =>
    rw [List.forall_mem_cons] at hper
    have hrender := h name r
    rw [outcomes, List.map_cons, ← outcomes]
    cases houtcome : outcome r.session.catalog name with
    | ok text =>
      rw [after_cons_of_ok houtcome]
      exact .text (houtcome ▸ hrender) (ih (r := { r with state := change r.session.catalog name r.state }) hper.2)
    | error e =>
      rw [after_cons_of_error houtcome]
      refine .failure (houtcome ▸ hrender) (hper.1 e houtcome) ?_
      exact ih (r := ⟨r.session.record name e, change r.session.catalog name r.state⟩) hper.2

/-- The results of functions are their outcomes, and none of them may be a failure that ends the run. -/
theorem rendersEach_iff (h : R.Determined outcome change) {results : List (String × Except Error String)} :
    R.RendersEach r results r' ↔ ∃ names, results = outcomes outcome r.session.catalog names ∧
      r' = after outcome change r names ∧ ∀ name ∈ names, PerFunction (outcome r.session.catalog name) := by
  constructor
  · exact fun hresults => ⟨_, h.of_rendersEach hresults⟩
  · rintro ⟨names, rfl, rfl, hper⟩
    exact h.rendersEach hper

/-- The text of the functions to generate comes out if no failure ends the run. -/
theorem run_renderAll (h : R.Determined outcome change)
    (hper : ∀ name ∈ r.session.generatable.2, PerFunction (outcome r.session.catalog name)) :
    ∃ decisions, R.renderAll.run.run r =
      (.ok (String.join ((outcomes outcome r.session.catalog r.session.generatable.2).map R.shown)),
        after outcome change { r with session := { r.session with decisions := decisions } }
          r.session.generatable.2) := by
  obtain ⟨decisions, hdecided⟩ := r.exists_decided
  have hall : R.renderAll.run.run r = (R.renderEach r.session.generatable.2).run.run r.decided := rfl
  have hrun := (h.rendersEach (r := { r with session := { r.session with decisions := decisions } }) hper).run_eq_ok
  rw [map_fst_outcomes] at hrun
  exact ⟨decisions, by rw [hall, hdecided, hrun]⟩

end Determined
end Renderer
end Bindery
