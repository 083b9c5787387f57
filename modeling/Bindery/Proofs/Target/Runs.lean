import Bindery.Target.Basic

/-! # What computations of a run keep

A computation of a run keeps a property of runs, also if it fails (`Gen.Keeps`). Functions are rendered one after
the other from a run with such a property: if every rendering keeps it and fails only for a reason that concerns
the function alone, the text of all of them comes out (`Renderer.rendered_of_keeps`). -/

namespace Bindery

namespace Gen
variable {σ α β : Type}

/-- How a computation ends: with a run that has one property, and a value or a failure that has another. -/
def Ends (P : Run σ → Prop) (E : Error → Prop) (Q : α → Prop) : Except Error α × Run σ → Prop
  | (.ok a, r) => P r ∧ Q a
  | (.error e, r) => P r ∧ E e

/-- A computation keeps a property of runs; its values have a property, and so have its failures. -/
def Keeps (P : Run σ → Prop) (E : Error → Prop) (Q : α → Prop) (x : Gen σ α) : Prop :=
  ∀ r, P r → Ends P E Q (x.run.run r)

/-- The failures that concern one function. -/
def OfFunction (e : Error) : Prop := e.isPerFunction = true

/-- No failure. -/
def Never (_ : Error) : Prop := False

/-- Any value. -/
def Any (_ : α) : Prop := True

theorem Ends.exists_ok {P : Run σ → Prop} {p : Except Error α × Run σ} (h : Ends P Never Any p) :
    ∃ a, p.1 = .ok a := by
  obtain ⟨e | a, r⟩ := p
  · exact absurd h.2 id
  · exact ⟨a, rfl⟩

theorem Ends.not_exists_ok {P : Run σ → Prop} {E : Error → Prop} {p : Except Error α × Run σ}
    (h : Ends P E (fun _ => False) p) : ¬∃ a, p.1 = .ok a := by
  obtain ⟨e | a, r⟩ := p
  · rintro ⟨a, ha⟩
    cases ha
  · exact absurd h.2 id

/-! ### Single steps -/

theorem run_bind (x : Gen σ α) (f : α → Gen σ β) (r : Run σ) :
    (x >>= f).run.run r =
      match x.run.run r with
      | (.ok a, r') => (f a).run.run r'
      | (.error e, r') => (.error e, r') := by
  rw [ExceptT.run_bind, StateT.run_bind]
  rcases x.run.run r with ⟨_ | _, r'⟩ <;> rfl

theorem run_tryCatch (x : Gen σ α) (handle : Error → Gen σ α) (r : Run σ) :
    (tryCatch x handle).run.run r =
      match x.run.run r with
      | (.ok a, r') => (.ok a, r')
      | (.error e, r') => (handle e).run.run r' := by
  have hrun : StateT.run x r = x.run.run r := rfl
  show (ExceptT.tryCatch x handle).run.run r = _
  rw [ExceptT.tryCatch, ExceptT.run_mk, StateT.run_bind, hrun]
  rcases x.run.run r with ⟨_ | _, r'⟩ <;> rfl

theorem run_ofExcept (v : Except Error α) (r : Run σ) : (ofExcept v : Gen σ α).run.run r = (v, r) := by
  cases v <;> rfl

variable {P : Run σ → Prop} {E : Error → Prop} {Q : α → Prop} {R : β → Prop}

theorem Keeps.pure {a : α} (ha : Q a) : Keeps P E Q (Pure.pure a) := fun _ hr => ⟨hr, ha⟩

theorem Keeps.bind {x : Gen σ α} {f : α → Gen σ β} (hx : Keeps P E Q x) (hf : ∀ a, Q a → Keeps P E R (f a)) :
    Keeps P E R (x >>= f) := by
  intro r hr
  have hends := hx r hr
  rw [run_bind]
  rcases h : x.run.run r with ⟨e | a, r'⟩ <;> rw [h] at hends
  · exact hends
  · exact hf a hends.2 r' hends.1

theorem Keeps.ofExcept {v : Except Error α} (hv : ∀ e, v = .error e → E e) : Keeps P E Any (ofExcept v) := by
  intro r hr
  rw [run_ofExcept]
  cases v with
  | ok a => exact ⟨hr, trivial⟩
  | error e => exact ⟨hr, hv e rfl⟩

theorem Keeps.any (x : Gen σ α) : Keeps Any Any Any x := by
  intro r _
  rcases x.run.run r with ⟨_ | _, _⟩ <;> exact ⟨trivial, trivial⟩

end Gen

/-! ### Functions one after the other -/

namespace Renderer
open Gen
variable {σ : Type} {R : Renderer σ} {P : Run σ → Prop}

/-- The text of functions, rendered one after the other from a run: where rendering fails, for a reason that
concerns the function alone, a comment takes its place and a diagnostic is recorded. -/
inductive Rendered (R : Renderer σ) : Run σ → List String → String → Run σ → Prop
  | nil (r : Run σ) : Rendered R r [] "" r
  | text {r r₁ r' : Run σ} {function text tail : String} {rest : List String}
      (h : (R.render function).run.run r = (.ok text, r₁)) (htail : Rendered R r₁ rest tail r') :
      Rendered R r (function :: rest) (text ++ tail) r'
  | comment {r r₁ r' : Run σ} {function tail : String} {e : Error} {rest : List String}
      (h : (R.render function).run.run r = (.error e, r₁)) (he : e.isPerFunction = true)
      (htail : Rendered R { r₁ with session := r₁.session.record function e } rest tail r') :
      Rendered R r (function :: rest) (R.comment e.message ++ tail) r'

theorem run_guarded (function : String) (r : Run σ) :
    (R.guarded function).run.run r =
      match (R.render function).run.run r with
      | (.ok text, r') => (.ok text, r')
      | (.error e, r') =>
        if e.isPerFunction then (.ok (R.comment e.message), { r' with session := r'.session.record function e })
        else (.error e, r') := by
  rw [guarded, run_tryCatch]
  rcases (R.render function).run.run r with ⟨e | text, r'⟩
  · cases he : e.isPerFunction <;> simp only [he] <;> rfl
  · rfl

theorem run_renderEach_cons (function : String) (rest : List String) (r : Run σ) :
    (R.renderEach (function :: rest)).run.run r =
      match (R.guarded function).run.run r with
      | (.error e, r₁) => (.error e, r₁)
      | (.ok text, r₁) =>
        match (R.renderEach rest).run.run r₁ with
        | (.error e, r') => (.error e, r')
        | (.ok tail, r') => (.ok (text ++ tail), r') := by
  rw [renderEach, run_bind]
  rcases (R.guarded function).run.run r with ⟨e | text, r₁⟩
  · rfl
  · simp only [run_bind]
    rcases (R.renderEach rest).run.run r₁ with ⟨e | tail, r'⟩ <;> rfl

/-- Where every rendering keeps a property that recording a diagnostic keeps, and fails only for reasons that
concern the function alone, the text of all functions comes out. -/
theorem rendered_of_keeps (hrecord : ∀ r function e, P r → P { r with session := r.session.record function e })
    {functions : List String} (hrender : ∀ function ∈ functions, Keeps P OfFunction Any (R.render function))
    {r : Run σ} (hr : P r) :
    ∃ text r', (R.renderEach functions).run.run r = (.ok text, r') ∧ Rendered R r functions text r' ∧ P r' := by
  induction functions generalizing r with
  | nil => exact ⟨"", r, rfl, .nil r, hr⟩
  | cons function rest ih =>
    rw [List.forall_mem_cons] at hrender
    have hends := hrender.1 r hr
    rw [run_renderEach_cons, run_guarded]
    rcases h : (R.render function).run.run r with ⟨e | text, r₁⟩ <;> rw [h] at hends
    · obtain ⟨hr₁, he : e.isPerFunction = true⟩ := hends
      obtain ⟨tail, r', heach, htail, hr'⟩ := ih hrender.2 (hrecord r₁ function e hr₁)
      refine ⟨R.comment e.message ++ tail, r', ?_, .comment h he htail, hr'⟩
      simp only [if_pos he, heach]
    · obtain ⟨tail, r', heach, htail, hr'⟩ := ih hrender.2 hends.1
      refine ⟨text ++ tail, r', ?_, .text h htail, hr'⟩
      simp only [heach]

theorem keeps_renderEach (hrecord : ∀ r function e, P r → P { r with session := r.session.record function e })
    {functions : List String} (hrender : ∀ function ∈ functions, Keeps P OfFunction Any (R.render function)) :
    Keeps P Never Any (R.renderEach functions) := by
  intro r hr
  obtain ⟨text, r', heach, -, hr'⟩ := rendered_of_keeps hrecord hrender hr
  rw [heach]
  exact ⟨hr', trivial⟩

end Renderer
end Bindery
