import Bindery.Proofs.Entries
import Bindery.Proofs.Except
import Bindery.Signature
import Bindery.Template.Skeleton

/-! # Failures that concern one function

What the rendering of a function is put together of fails, if at all, for a reason that concerns this function
alone: templates that lack a dependency, types that are not known. The parameters of a function are no such
reason, but a catalog that has been validated has derived them. A skeleton does not fail if all its holes are
given a text. -/

namespace Bindery
variable {α β : Type}

/-- A computation that fails only for reasons that concern one function. -/
def PerFunction (x : Except Error α) : Prop := ∀ e, x = .error e → e.isPerFunction = true

namespace PerFunction
variable {x : Except Error α}

theorem ok (a : α) : PerFunction (.ok a) := fun _ h => nomatch h

theorem error {e : Error} (h : e.isPerFunction = true) : PerFunction (.error e : Except Error α) := by
  rintro _ ⟨⟩
  exact h

theorem of_eq_ok {a : α} (h : x = .ok a) : PerFunction x := h ▸ ok a

theorem bind {f : α → Except Error β} (hx : PerFunction x) (hf : ∀ a, PerFunction (f a)) : PerFunction (x >>= f) := by
  cases x with
  | ok a => exact hf a
  | error e => exact error (hx e rfl)

theorem map (f : α → β) (hx : PerFunction x) : PerFunction (x.map f) := by
  cases x with
  | ok a => exact ok (f a)
  | error e => exact error (hx e rfl)

theorem mapM {f : α → Except Error β} {xs : List α} (hf : ∀ a, PerFunction (f a)) : PerFunction (xs.mapM f) := by
  induction xs with
  | nil => exact ok []
  | cons a rest ih =>
    rw [List.mapM_cons]
    exact (hf a).bind fun b => ih.bind fun bs => ok (b :: bs)

end PerFunction

/-! ### Templates -/

namespace Template

theorem Substitution.fillPiece_perFunction (s : Substitution) (p : Piece) : PerFunction (s.fillPiece p) := by
  cases p with
  | plain c => exact .ok [c]
  | mark m =>
    rw [fillPiece]
    split
    · exact .ok _
    · exact .error (e := s.unresolved m) rfl

theorem Substitution.fillPieces_perFunction (s : Substitution) (ps : List Piece) : PerFunction (s.fillPieces ps) := by
  induction ps with
  | nil => exact .ok []
  | cons p ps ih =>
    rw [fillPieces]
    split
    · rename_i e he
      exact .error (s.fillPiece_perFunction p e he)
    · exact ih.map _

theorem Substitution.fill_perFunction (s : Substitution) (template : String) : PerFunction (s.fill template) :=
  (s.fillPieces_perFunction _).map _

/-- A template that may opt out gives one line at most. -/
theorem Substitution.line_perFunction (s : Substitution) (template : String) :
    PerFunction (if template = "" then .ok [] else (s.fill template).map ([·])) := by
  split
  · exact .ok []
  · exact (s.fill_perFunction template).map _

/-- The names of the holes of a skeleton. -/
def Skeleton.holes (s : Skeleton) : List String :=
  s.filterMap fun
    | .fixed _ => none
    | .hole name => some name

/-- A skeleton with a text for every hole can be filled. -/
theorem Skeleton.exists_fill_eq_ok {fields : Entries String} {s : Skeleton} (h : s.holes ⊆ Entries.names fields) :
    ∃ text, s.fill fields = .ok text := by
  induction s with
  | nil => exact ⟨"", rfl⟩
  | cons p ps ih =>
    have hpart : ∃ text, fillPart fields p = .ok text := by
      cases p with
      | fixed text => exact ⟨text, rfl⟩
      | hole name =>
        have hname := Entries.has_iff.mpr (h (List.mem_cons_self ..))
        obtain ⟨text, htext⟩ := Option.isSome_iff_exists.mp hname
        exact ⟨text, by rw [fillPart, htext]⟩
    have hrest : Skeleton.holes ps ⊆ Entries.names fields := by
      intro name hname
      cases p with
      | fixed => exact h hname
      | hole => exact h (List.mem_cons_of_mem _ hname)
    obtain ⟨text, htext⟩ := hpart
    obtain ⟨tail, htail⟩ := ih hrest
    exact ⟨text ++ tail, by rw [fill, htext, htail]; rfl⟩

theorem Skeleton.fill_perFunction {fields : Entries String} {s : Skeleton} (h : s.holes ⊆ Entries.names fields) :
    PerFunction (s.fill fields) := by
  obtain ⟨text, htext⟩ := exists_fill_eq_ok h
  exact .of_eq_ok htext

end Template

/-! ### Signatures -/

theorem Catalog.resolveType_perFunction (types : Entries TypeInfo) (function typeName : String) :
    PerFunction (resolveType types function typeName) := by
  unfold resolveType
  split
  · exact .ok _
  · exact .error rfl

namespace Signature
open Template (Naming)
variable (s : Signature) (naming : Naming)

theorem fill_perFunction (p : TypedParam) (template : String) : PerFunction (s.fill naming p template) :=
  (s.substitution naming p).fill_perFunction template

theorem facet?_perFunction (facet : Facet) (p : TypedParam) : PerFunction (s.facet? facet naming p) := by
  unfold facet?
  split
  · exact .ok none
  · exact (s.fill_perFunction naming p _).map _

theorem facets_perFunction (facet : Facet) (ps : List TypedParam) : PerFunction (s.facets facet naming ps) :=
  PerFunction.bind (.mapM fun p => s.facet?_perFunction naming facet p) fun _ => .ok _

theorem fillAll_perFunction (template : TypedParam → String) (ps : List TypedParam) :
    PerFunction (s.fillAll naming template ps) :=
  .mapM fun p => s.fill_perFunction naming p _

end Signature

/-! ### Validated catalogs -/

namespace Catalog
variable {c : Catalog} {name : String}

theorem exists_order_of_validate (hc : c.validate = .ok ()) {f : Function} (hf : c.function? name = some f) :
    ∃ names, f.order = .ok names := by
  have horder := forM_eq_ok hc f (Entries.mem_values_of_get? hf)
  cases h : f.order with
  | ok names => exact ⟨names, rfl⟩
  | error e =>
    rw [h] at horder
    cases horder

theorem exists_params_of_validate (hc : c.validate = .ok ()) {f : Function} (hf : c.function? name = some f) :
    ∃ table, f.params = .ok table := by
  obtain ⟨names, horder⟩ := exists_order_of_validate hc hf
  rw [Function.order, bind_eq_ok_iff] at horder
  obtain ⟨table, htable, -⟩ := horder
  exact ⟨table, htable⟩

theorem exists_requireFunction {c : Catalog} (h : name ∈ Entries.names c.functions) :
    ∃ f, c.function? name = some f ∧ c.requireFunction name = .ok f := by
  obtain ⟨f, hf⟩ := Option.isSome_iff_exists.mp (Entries.has_iff.mpr h)
  exact ⟨f, hf, by rw [requireFunction, function?, hf]⟩

end Catalog

theorem Signature.ofFunction_perFunction {types : Entries TypeInfo} {f : Function} {table : Function.ParamTable}
    {names : List String} (hparams : f.params = .ok table) (horder : f.order = .ok names) :
    PerFunction (ofFunction types f) := by
  have hresolve : ∀ p, PerFunction (TypedParam.resolve types f.name p) := fun p =>
    (Catalog.resolveType_perFunction types f.name p.type).map _
  refine (PerFunction.of_eq_ok hparams).bind fun _ => (PerFunction.mapM hresolve).bind fun _ => ?_
  exact (Catalog.resolveType_perFunction types f.name f.returnType).bind fun _ =>
    (PerFunction.of_eq_ok horder).bind fun _ => .ok _

/-- In a validated catalog the signature of a known function fails only for a type that is not known. -/
theorem Signature.resolve_perFunction {c : Catalog} {name : String} (hc : c.validate = .ok ())
    (h : name ∈ Entries.names c.functions) : PerFunction (resolve c name) := by
  obtain ⟨f, hf, hrequire⟩ := Catalog.exists_requireFunction h
  obtain ⟨table, hparams⟩ := Catalog.exists_params_of_validate hc hf
  obtain ⟨names, horder⟩ := Catalog.exists_order_of_validate hc hf
  rw [resolve, hrequire, ok_bind]
  exact ofFunction_perFunction hparams horder

end Bindery
