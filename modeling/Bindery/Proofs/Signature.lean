import Bindery.Proofs.Function.Order
import Bindery.Proofs.Function.Params
import Bindery.Signature

/-! # Parameters in signature order

A signature has all parameters that are declared. Its order has each of them once, save one: a parameter may be named
like the ellipsis, and where the order lists the ellipsis, such a parameter is neither listed itself nor among those
for which the ellipsis stands (`Arranged`). It is then missing from what is taken and from the result. -/

namespace Bindery
open Attr (Value)

namespace Function
variable {f : Function} {table : ParamTable} {order : List String}

/-- The entries of `PARAM_ORDER`. -/
def orderEntries (f : Function) : List String := ((f.attr? orderKey).bind Value.items?).getD []

/-- A parameter of this name is taken for the ellipsis that the order lists. -/
def hides (f : Function) (name : String) : Bool := ellipsis ∈ f.orderEntries ∧ name = ellipsis

theorem orderOf_perm (hnodup : (Entries.names table).Nodup) (h : f.orderOf table = .ok order) :
    order.Perm ((Entries.names table).filter fun name => ¬f.hides name) := by
  unfold orderOf at h
  split at h
  · rename_i v hv
    unfold signatureOrder listItems at h
    split at h
    · cases h
    · rename_i entries hentries
      split at hentries
      · rename_i items hitems
        obtain rfl := Except.ok.inj hentries
        have hf : f.orderEntries = items := by rw [orderEntries, hv, Option.bind_some, hitems, Option.getD_some]
        split at h
        · cases h
        · rename_i hcheck
          obtain rfl := Except.ok.inj h
          obtain ⟨hknown, hdistinct, -⟩ := checkOrder_eq_ok_iff.mp hcheck
          simpa [hides, hf] using arrange_perm hnodup hknown hdistinct
      · cases hentries
  · rename_i hnone
    obtain rfl := Except.ok.inj h
    have hf : f.orderEntries = [] := by rw [orderEntries, hnone]; rfl
    have hall : (Entries.names table).filter (fun name => ¬f.hides name) = Entries.names table := by simp [hides, hf]
    rw [hall]

end Function

/-! ### Lookups by name -/

namespace TypedParam
variable {ps : List TypedParam}

theorem find?_name (hnodup : (ps.map (·.name)).Nodup) {p : TypedParam} (hp : p ∈ ps) :
    ps.find? (fun q => q.name == p.name) = some p := by
  induction ps with
  | nil => cases hp
  | cons q rest ih =>
    rw [List.map_cons, List.nodup_cons] at hnodup
    rcases List.mem_cons.mp hp with rfl | hp
    · exact List.find?_cons_of_pos (beq_self_eq_true _)
    · have hne : q.name ≠ p.name := fun heq => hnodup.1 (heq ▸ List.mem_map_of_mem hp)
      rw [List.find?_cons_of_neg (by simpa using hne)]
      exact ih hnodup.2 hp

theorem filterMap_find?_name (hnodup : (ps.map (·.name)).Nodup) (keep : String → Bool) :
    ((ps.map (·.name)).filter keep).filterMap (fun name => ps.find? fun p => p.name == name) =
      ps.filter fun p => keep p.name := by
  have hfind : ∀ p ∈ ps.filter fun p => keep p.name, ps.find? (fun q => q.name == p.name) = some p := fun p hp =>
    find?_name hnodup (List.mem_filter.mp hp).1
  rw [List.filter_map, List.filterMap_map]
  calc (ps.filter fun p => keep p.name).filterMap (fun p => ps.find? fun q => q.name == p.name)
    _ = (ps.filter fun p => keep p.name).filterMap some := List.filterMap_congr hfind
    _ = ps.filter fun p => keep p.name := List.filterMap_some

end TypedParam

namespace ResultShape

theorem outputs_ofOutputs (ps : List TypedParam) : (ofOutputs ps).outputs = ps := by
  rcases ps with _ | ⟨p, _ | ⟨q, rest⟩⟩ <;> rfl

end ResultShape

theorem Catalog.resolveType_congr {c₁ c₂ : Catalog} (h : ∀ type, c₁.type? type = c₂.type? type) :
    resolveType c₁.types = resolveType c₂.types := by
  funext function type
  have htype : Entries.get? c₁.types type = Entries.get? c₂.types type := h type
  rw [resolveType, resolveType, htype]

theorem TypedParam.resolve_congr {c₁ c₂ : Catalog} (h : ∀ type, c₁.type? type = c₂.type? type) :
    resolve c₁.types = resolve c₂.types := by
  funext function p
  rw [resolve, resolve, Catalog.resolveType_congr h]

namespace Catalog
variable {c : Catalog} {f : Function} {t : TypeInfo} {e : Error} {name function type : String}

theorem requireFunction_eq_ok_iff : c.requireFunction name = .ok f ↔ c.function? name = some f := by
  rw [requireFunction]
  cases c.function? name <;> simp

theorem resolveType_eq_ok_iff : resolveType c.types function type = .ok t ↔ c.type? type = some t := by
  rw [resolveType, ← type?]
  cases c.type? type <;> simp

theorem resolveType_eq_error_iff :
    resolveType c.types function type = .error e ↔ c.type? type = none ∧ e = .unknownType function type := by
  rw [resolveType, ← type?]
  cases c.type? type <;> simp [eq_comm]

end Catalog

/-- The parameters of a function and their order can be derived, and all of its types are known. -/
def Catalog.Resolves (c : Catalog) (name : String) : Prop :=
  ∃ f table order, c.function? name = some f ∧ f.params = .ok table ∧ f.orderOf table = .ok order ∧
    (∀ p ∈ Entries.values table, (c.type? p.type).isSome) ∧ (c.type? f.returnType).isSome

namespace Signature
variable {s : Signature} {c : Catalog} {name : String}

/-- The parameters are the declared ones, in the order of their declaration. In signature order they are all there but
one that is taken for the ellipsis, and the result is made of those among them that are written. -/
structure Arranged (s : Signature) : Prop where
  declares : s.function.Declares (s.params.map (·.param.declared))
  ordered : s.ordered.Perm (s.params.filter fun p => ¬s.function.hides p.name)
  ordered_iff : s.ordered.Perm s.params ↔ ∀ p ∈ s.params, ¬s.function.hides p.name
  outputs : s.shape.outputs.Perm ((s.params.filter TypedParam.writes).filter fun p => ¬s.function.hides p.name)
  outputs_iff : s.shape.outputs.length = (s.params.filter TypedParam.writes).length ↔
    ∀ p ∈ s.params, p.writes → ¬s.function.hides p.name

theorem Arranged.nodup_params (h : s.Arranged) : (s.params.map (·.name)).Nodup := by
  have hnodup := h.declares.nodup
  rw [List.map_map] at hnodup
  exact hnodup

theorem Arranged.name_ne_empty (h : s.Arranged) {p : TypedParam} (hp : p ∈ s.params) : p.name ≠ "" := by
  obtain ⟨items, -, hitems⟩ := h.declares.items
  have hparsed := forall_mem_of_mapM_eq_ok (fun _ _ => Param.name_ne_empty_of_parse) hitems
  exact hparsed p.param.declared (List.mem_map.mpr ⟨p, hp, rfl⟩)

/-- Each parameter has one place in the order. -/
theorem Arranged.nodup_ordered (h : s.Arranged) : (s.ordered.map (·.name)).Nodup :=
  (h.ordered.map _).nodup_iff.mpr (h.nodup_params.sublist (List.filter_sublist.map _))

/-- What is taken in signature order is what the function reads, but for what is taken for the ellipsis. -/
theorem Arranged.inputs (h : s.Arranged) :
    s.orderedInputs.Perm (s.inputs.filter fun p => ¬s.function.hides p.name) := by
  rw [Signature.inputs, List.filter_comm]
  exact h.ordered.filter _

theorem Arranged.inputs_iff (h : s.Arranged) :
    s.orderedInputs.Perm s.inputs ↔ ∀ p ∈ s.inputs, ¬s.function.hides p.name := by
  constructor
  · intro hall p hp
    have hlength := (h.inputs.symm.trans hall).length_eq
    simpa using List.length_filter_eq_length_iff.mp hlength p hp
  · intro hnone
    have hall := h.inputs
    rwa [List.filter_eq_self.mpr fun p hp => by simpa using hnone p hp] at hall

/-- A function has a signature if its parameters and their order can be derived and all types are known. -/
theorem ofFunction_eq_ok_iff {types : Entries TypeInfo} {f : Function} :
    ofFunction types f = .ok s ↔ ∃ table order, f.params = .ok table ∧ f.orderOf table = .ok order ∧
      (Entries.values table).mapM (TypedParam.resolve types f.name) = .ok s.params ∧
      Catalog.resolveType types f.name f.returnType = .ok s.returnType ∧ s.function = f ∧
      s.ordered = order.filterMap fun name => s.params.find? fun p => p.name == name := by
  simp only [ofFunction, Function.order, bind_eq_ok_iff, pure_eq_ok_iff]
  constructor
  · rintro ⟨table, htable, params, hparams, returnType, hreturn, order, ⟨table', htable', horder⟩, rfl⟩
    cases htable.symm.trans htable'
    exact ⟨table, order, htable, horder, hparams, hreturn, rfl, rfl⟩
  · rintro ⟨table, order, htable, horder, hparams, hreturn, rfl, hordered⟩
    refine ⟨table, htable, s.params, hparams, s.returnType, hreturn, order, ⟨table, htable, horder⟩, ?_⟩
    rw [← hordered]

theorem ofFunction_eq_ok {types : Entries TypeInfo} {f : Function} (h : ofFunction types f = .ok s) :
    ∃ table order, f.params = .ok table ∧ f.orderOf table = .ok order ∧ s.function = f ∧
      s.params.map (·.param) = Entries.values table ∧
      s.ordered = order.filterMap fun name => s.params.find? fun p => p.name == name := by
  obtain ⟨table, order, htable, horder, hparams, -, hf, hordered⟩ := ofFunction_eq_ok_iff.mp h
  refine ⟨table, order, htable, horder, hf, map_of_mapM_eq_ok (fun p q hq => ?_) hparams, hordered⟩
  obtain ⟨t, -, rfl⟩ := map_eq_ok_iff.mp hq
  rfl

theorem resolve_eq_ok_iff : resolve c name = .ok s ↔ ∃ f, c.function? name = some f ∧ ofFunction c.types f = .ok s := by
  simp only [resolve, bind_eq_ok_iff, Catalog.requireFunction_eq_ok_iff]

/-- A function has a signature exactly if its parameters and their order can be derived and all types are known. -/
theorem exists_resolve_iff : (∃ s, resolve c name = .ok s) ↔ c.Resolves name := by
  have hknown : ∀ (f type : String), (∃ t, Catalog.resolveType c.types f type = .ok t) ↔ (c.type? type).isSome := by
    intro f type
    simp only [Catalog.resolveType_eq_ok_iff, Option.isSome_iff_exists]
  have hparams : ∀ (f : String) (ps : List Param), (∃ ts, ps.mapM (TypedParam.resolve c.types f) = .ok ts) ↔
      ∀ p ∈ ps, (c.type? p.type).isSome := by
    intro f ps
    rw [exists_mapM_eq_ok_iff]
    refine forall₂_congr fun p _ => ?_
    rw [← hknown f]
    simp only [TypedParam.resolve, map_eq_ok_iff]
    exact ⟨fun ⟨_, t, ht, _⟩ => ⟨t, ht⟩, fun ⟨t, ht⟩ => ⟨_, t, ht, rfl⟩⟩
  simp only [resolve_eq_ok_iff, ofFunction_eq_ok_iff]
  constructor
  · rintro ⟨s, f, hf, table, order, htable, horder, hps, hreturn, -, -⟩
    exact ⟨f, table, order, hf, htable, horder, (hparams f.name _).mp ⟨_, hps⟩, (hknown f.name _).mp ⟨_, hreturn⟩⟩
  · rintro ⟨f, table, order, hf, htable, horder, hps, hreturn⟩
    obtain ⟨params, hps⟩ := (hparams f.name _).mpr hps
    obtain ⟨returnType, hreturn⟩ := (hknown f.name _).mpr hreturn
    let ordered := order.filterMap fun name => params.find? fun p => p.name == name
    exact ⟨⟨f, params, ordered, returnType⟩, f, hf, table, order, htable, horder, hps, hreturn, rfl, rfl⟩

theorem arranged_of_ofFunction {types : Entries TypeInfo} {f : Function} (h : ofFunction types f = .ok s) :
    s.Arranged := by
  obtain ⟨table, order, htable, horder, hf, hparams, hordered⟩ := ofFunction_eq_ok h
  obtain ⟨hdeclares, hnames⟩ := Function.declares_of_params htable
  subst hf
  rw [← hparams, List.map_map] at hdeclares
  have hnames : Entries.names table = s.params.map (·.name) := by
    rw [hnames, ← hparams, List.map_map]
    rfl
  have hnodup : (s.params.map (·.name)).Nodup := by
    have h := hdeclares.nodup
    rw [List.map_map] at h
    exact h
  have hordered : s.ordered.Perm (s.params.filter fun p => ¬s.function.hides p.name) := by
    have hperm := s.function.orderOf_perm (hnames ▸ hnodup) horder
    rw [hnames] at hperm
    rw [hordered, ← TypedParam.filterMap_find?_name hnodup fun name => ¬s.function.hides name]
    exact hperm.filterMap _
  have houtputs : s.shape.outputs.Perm ((s.params.filter TypedParam.writes).filter fun p => ¬s.function.hides p.name) := by
    rw [shape, ResultShape.outputs_ofOutputs, List.filter_comm]
    exact hordered.filter _
  refine ⟨hdeclares, hordered, ⟨fun hall p hp => ?_, fun hnone => ?_⟩, houtputs, ?_⟩
  · have hlength := (hordered.symm.trans hall).length_eq
    simpa using List.length_filter_eq_length_iff.mp hlength p hp
  · rwa [List.filter_eq_self.mpr fun p hp => by simpa using hnone p hp] at hordered
  · rw [houtputs.length_eq, List.length_filter_eq_length_iff]
    simp [List.mem_filter]

/-- The names of the parameters in signature order are the order of the function. -/
theorem order_of_ofFunction {types : Entries TypeInfo} {f : Function} (h : ofFunction types f = .ok s) :
    f.order = .ok (s.ordered.map (·.name)) := by
  have harranged := arranged_of_ofFunction h
  obtain ⟨table, order, htable, horder, rfl, hparams, hordered⟩ := ofFunction_eq_ok h
  have hnames : Entries.names table = s.params.map (·.name) := by
    rw [(Function.declares_of_params htable).2, ← hparams, List.map_map]
    rfl
  have hperm := s.function.orderOf_perm (hnames ▸ harranged.nodup_params) horder
  have hfound : ∀ name ∈ order, (s.params.find? fun p => p.name == name).map (·.name) = some name := by
    intro name hname
    have hmem := (List.mem_filter.mp (hperm.subset hname)).1
    rw [hnames] at hmem
    obtain ⟨p, hp, rfl⟩ := List.mem_map.mp hmem
    rw [TypedParam.find?_name harranged.nodup_params hp, Option.map_some]
  have hordered : s.ordered.map (·.name) = order :=
    calc s.ordered.map (·.name)
      _ = order.filterMap fun name => (s.params.find? fun p => p.name == name).map (·.name) := by
        rw [hordered, List.map_filterMap]
      _ = order.filterMap some := List.filterMap_congr hfound
      _ = order := List.filterMap_some
  rw [Function.order, htable, ok_bind, horder, hordered]

/-- The types of a signature are those that the catalog has under their names. -/
theorem types_of_resolve (h : resolve c name = .ok s) :
    c.type? s.function.returnType = some s.returnType ∧ ∀ p ∈ s.params, c.type? p.param.type = some p.type := by
  obtain ⟨f, -, hs⟩ := resolve_eq_ok_iff.mp h
  obtain ⟨table, order, -, -, hparams, hreturn, rfl, -⟩ := ofFunction_eq_ok_iff.mp hs
  refine ⟨Catalog.resolveType_eq_ok_iff.mp hreturn, fun p hp => ?_⟩
  obtain ⟨q, -, hq⟩ := (mem_of_mapM_eq_ok hparams).mp hp
  obtain ⟨t, ht, rfl⟩ := map_eq_ok_iff.mp hq
  exact Catalog.resolveType_eq_ok_iff.mp ht

/-- The signature of a function has all parameters that are declared; its order has those that are not taken for the
ellipsis. -/
theorem arranged_of_resolve (h : resolve c name = .ok s) : c.function? name = some s.function ∧ s.Arranged := by
  rw [resolve, bind_eq_ok_iff] at h
  obtain ⟨f, hf, h⟩ := h
  have hfunction : s.function = f := by
    obtain ⟨-, -, -, -, hf, -⟩ := ofFunction_eq_ok h
    exact hf
  refine ⟨?_, arranged_of_ofFunction h⟩
  unfold Catalog.requireFunction at hf
  split at hf
  · rename_i f' hf'
    rw [hf', hfunction, Except.ok.inj hf]
  · cases hf

/-- A catalog of one type and one function `f` that has these lists. -/
def catalogOf (params order : String) : Catalog where
  functions := [("f", ⟨"f", [("PARAMS", .text params), (Function.orderKey, .text order)], "INT", .empty, .empty, true⟩)]
  types := [("INT", .new "INT")]
  strict := true

theorem arranged_of_resolve_around :
    ∃ s, resolve (catalogOf "INT a, OUT INT b, INOUT INT c = 1" "c, ..., a") "f" = .ok s ∧
      s.ordered.map (·.name) = ["c", "b", "a"] ∧ s.ordered.Perm s.params ∧ s.shape.outputs.length = 2 := by
  have hresolve : (resolve (catalogOf "INT a, OUT INT b, INOUT INT c = 1" "c, ..., a") "f").map (fun s =>
      (s.ordered.map (·.name), s.params.all (fun p => !s.function.hides p.name),
        (s.params.filter TypedParam.writes).length)) = .ok (["c", "b", "a"], true, 2) := by decide +kernel
  obtain ⟨s, hs, hall⟩ := map_eq_ok_iff.mp hresolve
  rw [Prod.mk.injEq, Prod.mk.injEq, List.all_eq_true] at hall
  obtain ⟨hordered, hnot, hwrites⟩ := hall
  have hnone : ∀ p ∈ s.params, ¬s.function.hides p.name := fun p hp => by simpa using hnot p hp
  have h := (arranged_of_resolve hs).2
  refine ⟨s, hs, hordered, h.ordered_iff.mpr hnone, ?_⟩
  rw [h.outputs_iff.mpr fun p hp _ => hnone p hp, hwrites]

/-- The parameter that the function writes is not in its order, and the result has nothing of it. -/
theorem resolve_drops_parameter :
    ∃ s, resolve (catalogOf "INT a, OUT INT ..." "...") "f" = .ok s ∧ s.params.map (·.name) = ["a", "..."] ∧
      s.ordered.map (·.name) = ["a"] ∧ ¬s.ordered.Perm s.params ∧
      s.shape.outputs.length = 0 ∧ (s.params.filter TypedParam.writes).length = 1 := by
  have hresolve : (resolve (catalogOf "INT a, OUT INT ..." "...") "f").map (fun s =>
      (s.params.map (·.name), s.ordered.map (·.name), s.shape.outputs.length,
        (s.params.filter TypedParam.writes).length)) = .ok (["a", "..."], ["a"], 0, 1) := by decide +kernel
  obtain ⟨s, hs, hall⟩ := map_eq_ok_iff.mp hresolve
  rw [Prod.mk.injEq, Prod.mk.injEq, Prod.mk.injEq] at hall
  obtain ⟨hparams, hordered, houtputs, hwrites⟩ := hall
  refine ⟨s, hs, hparams, hordered, fun hperm => ?_, houtputs, hwrites⟩
  have hlength := (hperm.map (·.name)).length_eq
  rw [hparams, hordered] at hlength
  cases hlength

end Signature
end Bindery
