import Bindery.Proofs.Function.Dependencies
import Bindery.Proofs.Signature

/-! # Keys of an aggregate

Several results form an aggregate, in which each is found under its display name: the one that `PARAM_NAMES` gives the
parameter last, or else its own. An entry of `PARAM_NAMES` has to name a parameter, but nothing compares the display
names with each other. Two results share a key exactly if they `Clash`, and the later one is then out of reach
(`Signature.Keyed`). -/

namespace Bindery

namespace Function

/-- The display name that entries give a parameter; the last one counts. -/
def given? (names : List (String × String)) (parameter : String) : Option String :=
  ((names.filter (·.1 = parameter)).map (·.2)).getLast?

/-- What a parameter is called among several results. -/
def shown (names : List (String × String)) (parameter : String) : String := (given? names parameter).getD parameter

/-- Two parameters are called the same. -/
inductive Clash (names : List (String × String)) : String → String → Prop where
  /-- Both are given one name. -/
  | given {p q display : String} (hp : given? names p = some display) (hq : given? names q = some display) :
      Clash names p q
  /-- The first is given the name of the second, which keeps it. -/
  | kept {p q : String} (hp : given? names p = some q) (hq : given? names q = none) : Clash names p q

variable {names : List (String × String)}

theorem given?_nil (parameter : String) : given? [] parameter = none := rfl

theorem given?_cons (e : String × String) (names : List (String × String)) (parameter : String) :
    given? (e :: names) parameter = (given? names parameter).or (given? [e] parameter) := by
  simp only [given?]
  rw [← List.singleton_append, List.filter_append, List.map_append, List.getLast?_append]

theorem given?_singleton (parameter display : String) : given? [(parameter, display)] parameter = some display := by
  simp [given?]

theorem given?_singleton_of_ne {e : String × String} {parameter : String} (h : e.1 ≠ parameter) :
    given? [e] parameter = none := by
  simp [given?, h]

theorem shown_eq_iff {p q : String} (hne : p ≠ q) :
    shown names p = shown names q ↔ Clash names p q ∨ Clash names q p := by
  unfold shown
  constructor
  · cases hp : given? names p with
    | none =>
      cases hq : given? names q with
      | none => exact fun h => absurd h hne
      | some display =>
        intro h
        obtain rfl : p = display := h
        exact Or.inr (.kept hq hp)
    | some display =>
      cases hq : given? names q with
      | none =>
        intro h
        obtain rfl : display = q := h
        exact Or.inl (.kept hp hq)
      | some display' =>
        intro h
        obtain rfl : display = display' := h
        exact Or.inl (.given hp hq)
  · rintro ((⟨hp, hq⟩ | ⟨hp, hq⟩) | (⟨hp, hq⟩ | ⟨hp, hq⟩)) <;> rw [hp, hq] <;> rfl

/-! ### Display names in a table -/

variable {f : Function} {table t : ParamTable}

/-- A table with the display names that entries give. -/
def displayed (table : ParamTable) (names : List (String × String)) : ParamTable :=
  table.map fun e => (e.1, { e.2 with outputName := (given? names e.1).or e.2.outputName })

theorem names_displayed (table : ParamTable) (names : List (String × String)) :
    Entries.names (displayed table names) = Entries.names table := by
  simp [Entries.names, displayed, Function.comp_def]

theorem displayed_nil (table : ParamTable) : displayed table [] = table := by
  simp [displayed, given?_nil]

theorem displayed_displayed (table : ParamTable) (e : String × String) (names : List (String × String)) :
    displayed (displayed table [e]) names = displayed table (e :: names) := by
  rw [displayed, displayed, List.map_map, displayed]
  refine List.map_congr_left fun entry _ => ?_
  simp only [Function.comp_apply, given?_cons e names, Option.or_assoc]

theorem nameOutput_eq_ok_iff (hnodup : (Entries.names table).Nodup) {e : String × String} :
    f.nameOutput table e = .ok t ↔ e.1 ∈ Entries.names table ∧ t = displayed table [e] := by
  have hchange : Entries.modify table e.1 (fun p => { p with outputName := some e.2 }) = displayed table [e] := by
    rw [Entries.modify_eq_map hnodup]
    refine List.map_congr_left fun entry _ => ?_
    by_cases heq : e.1 = entry.1
    · rw [if_pos heq.symm, ← heq, given?_singleton]
      rfl
    · rw [if_neg (Ne.symm heq), given?_singleton_of_ne heq]
      rfl
  rw [nameOutput, hchange, ← Entries.has_iff]
  cases Entries.has table e.1 <;> simp [eq_comm]

theorem foldlM_nameOutput_eq_ok_iff (hnodup : (Entries.names table).Nodup) :
    names.foldlM f.nameOutput table = .ok t ↔
      (∀ e ∈ names, e.1 ∈ Entries.names table) ∧ t = displayed table names := by
  -- An entry changes the table but not its names, so the next entries are checked against the same parameters.
  induction names generalizing table with
  | nil =>
    rw [List.foldlM_nil, pure_eq_ok_iff, displayed_nil, eq_comm]
    simp
  | cons e names ih =>
    have hrest := @ih (displayed table [e]) (by rwa [names_displayed])
    rw [names_displayed, displayed_displayed] at hrest
    simp only [List.foldlM_cons, bind_eq_ok_iff, nameOutput_eq_ok_iff hnodup, List.forall_mem_cons]
    constructor
    · rintro ⟨_, ⟨he, rfl⟩, h⟩
      exact ⟨⟨he, (hrest.mp h).1⟩, (hrest.mp h).2⟩
    · rintro ⟨⟨he, hall⟩, ht⟩
      exact ⟨_, ⟨he, rfl⟩, hrest.mpr ⟨hall, ht⟩⟩

/-- No parameter has a display name before `PARAM_NAMES` is read. -/
theorem outputName_of_declaredTable {ds : List Dependency} (h : f.declaredTable = .ok table) :
    ∀ e ∈ attached table ds, e.2.outputName = none := by
  obtain ⟨ps, ⟨⟨items, -, hps⟩, -⟩, rfl⟩ := declares_of_declaredTable h
  intro e he
  obtain ⟨d, hd, rfl⟩ := List.mem_map.mp he
  obtain ⟨p, hp, rfl⟩ := List.mem_map.mp hd
  have hdeclared := forall_mem_of_mapM_eq_ok (fun _ _ => Param.declared_of_parse) hps p hp
  exact (congrArg Param.outputName hdeclared).symm

theorem name_of_params (h : f.params = .ok table) {e : String × Param} (he : e ∈ table) : e.1 = e.2.name := by
  have hall := (declares_of_params h).2
  rw [Entries.names, Entries.values, List.map_map] at hall
  exact List.map_inj_left.mp hall e he

/-- The display names are those that `PARAM_NAMES` gives, and it gives them to parameters only. -/
theorem displayName_of_params (h : f.params = .ok table) : ∃ names, f.declaredNames = .ok names ∧
    (∀ e ∈ names, e.1 ∈ Entries.names table) ∧ ∀ e ∈ table, e.2.displayName = shown names e.1 := by
  obtain ⟨declared, ds, hdeclared, -, -, hnamed⟩ := params_eq_ok_iff.mp h
  obtain ⟨names, hnames, hfold⟩ := bind_eq_ok_iff.mp hnamed
  have hnodup : (Entries.names (attached declared ds)).Nodup := by
    obtain ⟨ps, hps, rfl⟩ := declares_of_declaredTable hdeclared
    rw [names_attached, names_tableOf]
    exact hps.nodup
  obtain ⟨hknown, rfl⟩ := (foldlM_nameOutput_eq_ok_iff hnodup).mp hfold
  refine ⟨names, hnames, by rwa [names_displayed], fun e he => ?_⟩
  have hname := name_of_params h he
  obtain ⟨d, hd, rfl⟩ := List.mem_map.mp he
  change d.1 = d.2.name at hname
  change ((given? names d.1).or d.2.outputName).getD d.2.name = shown names d.1
  rw [outputName_of_declaredTable hdeclared d hd, Option.or_none, shown, hname]

end Function

/-! ### Keys -/

theorem ResultShape.keys_ofOutputs {ps : List TypedParam} (h : 1 < ps.length) :
    (ofOutputs ps).keys = ps.map (·.param.displayName) := by
  rcases ps with _ | ⟨p, _ | ⟨q, rest⟩⟩
  · cases h
  · cases Nat.lt_irrefl 1 h
  · rfl

namespace Signature
variable {s : Signature} {c : Catalog} {name : String}

/-- The output that is found under a key; of several it is the first. -/
def output? (s : Signature) (key : String) : Option TypedParam :=
  s.orderedOutputs.find? fun p => p.param.displayName == key

/-- What the keys of an aggregate are, where `PARAM_NAMES` gives these display names. -/
structure Keyed (s : Signature) (names : List (String × String)) : Prop where
  known : ∀ e ∈ names, e.1 ∈ s.params.map (·.name)
  order : s.function.order = .ok (s.ordered.map (·.name))
  keys : s.shape.keys = s.orderedOutputs.map fun p => Function.shown names p.name
  /-- The keys are distinct exactly if no two outputs are called the same. -/
  nodup_iff : s.shape.keys.Nodup ↔
    ∀ p ∈ s.orderedOutputs, ∀ q ∈ s.orderedOutputs, p.name ≠ q.name → ¬Function.Clash names p.name q.name
  /-- Every output is found under its key exactly if no two outputs are called the same. -/
  found_iff : (∀ p ∈ s.orderedOutputs, s.output? (Function.shown names p.name) = some p) ↔
    ∀ p ∈ s.orderedOutputs, ∀ q ∈ s.orderedOutputs, p.name ≠ q.name → ¬Function.Clash names p.name q.name

theorem mem_params_of_mem_orderedOutputs (h : s.Arranged) {p : TypedParam} (hp : p ∈ s.orderedOutputs) : p ∈ s.params :=
  (List.mem_filter.mp (h.ordered.subset (List.mem_filter.mp hp).1)).1

theorem nodup_orderedOutputs (h : s.Arranged) : (s.orderedOutputs.map (·.name)).Nodup :=
  h.nodup_ordered.sublist (List.filter_sublist.map _)

/-- Outputs of distinct names are called differently exactly if no two of them are called the same. -/
theorem shown_injOn_iff (h : s.Arranged) (names : List (String × String)) :
    (∀ p ∈ s.orderedOutputs, ∀ q ∈ s.orderedOutputs,
      Function.shown names p.name = Function.shown names q.name → p = q) ↔
      ∀ p ∈ s.orderedOutputs, ∀ q ∈ s.orderedOutputs, p.name ≠ q.name → ¬Function.Clash names p.name q.name := by
  constructor
  · intro hinj p hp q hq hne hclash
    exact hne (congrArg _ (hinj p hp q hq ((Function.shown_eq_iff hne).mpr (Or.inl hclash))))
  · intro hnone p hp q hq hshown
    by_contra hne
    have hname : p.name ≠ q.name := fun heq => hne (List.inj_on_of_nodup_map (nodup_orderedOutputs h) hp hq heq)
    rcases (Function.shown_eq_iff hname).mp hshown with hclash | hclash
    · exact hnone p hp q hq hname hclash
    · exact hnone q hq p hp hname.symm hclash

/-- Every output is found under its display name exactly if display names tell the outputs apart. -/
theorem output?_displayName_iff (s : Signature) :
    (∀ p ∈ s.orderedOutputs, s.output? p.param.displayName = some p) ↔
      ∀ p ∈ s.orderedOutputs, ∀ q ∈ s.orderedOutputs, p.param.displayName = q.param.displayName → p = q := by
  constructor
  · intro hfound p hp q hq heq
    exact Option.some.inj ((hfound p hp).symm.trans (heq ▸ hfound q hq))
  · intro hinj p hp
    cases hq : s.output? p.param.displayName with
    | none => exact absurd (List.find?_eq_none.mp hq p hp) (by simp)
    | some q =>
      have hkey : q.param.displayName = p.param.displayName := by simpa using List.find?_some hq
      rw [hinj q (List.mem_of_find?_eq_some hq) p hp hkey]

/-- The keys of an aggregate are the display names of its outputs in signature order. They are distinct, and each leads
to its output, exactly if no two outputs are called the same. -/
theorem keyed_of_resolve (h : resolve c name = .ok s) (hmany : 1 < s.shape.outputs.length) :
    ∃ names, s.function.declaredNames = .ok names ∧ s.Keyed names := by
  obtain ⟨f, -, hs⟩ := resolve_eq_ok_iff.mp h
  have harranged := arranged_of_ofFunction hs
  have horder := order_of_ofFunction hs
  obtain ⟨table, -, htable, -, rfl, hparams, -⟩ := ofFunction_eq_ok hs
  obtain ⟨names, hnames, hknown, hshown⟩ := Function.displayName_of_params htable
  have hdisplay : ∀ p ∈ s.orderedOutputs, p.param.displayName = Function.shown names p.name := by
    intro p hp
    have hvalue : p.param ∈ Entries.values table :=
      hparams ▸ List.mem_map_of_mem (mem_params_of_mem_orderedOutputs harranged hp)
    obtain ⟨e, he, heq⟩ := List.mem_map.mp hvalue
    rw [← heq, hshown e he, Function.name_of_params htable he, heq]
    rfl
  have hkeys : s.shape.keys = s.orderedOutputs.map fun p => Function.shown names p.name := by
    rw [shape, ResultShape.outputs_ofOutputs] at hmany
    rw [shape, ResultShape.keys_ofOutputs hmany]
    exact List.map_congr_left hdisplay
  refine ⟨names, hnames, fun e he => ?_, horder, hkeys, ?_, ?_⟩
  · have hmem := hknown e he
    rwa [(Function.declares_of_params htable).2, ← hparams, List.map_map] at hmem
  · rw [hkeys, List.nodup_map_iff_inj_on (nodup_orderedOutputs harranged).of_map]
    exact shown_injOn_iff harranged names
  · rw [← shown_injOn_iff harranged names]
    simpa +contextual only [hdisplay] using output?_displayName_iff s

/-- A catalog of one type and one function `f` with two outputs `a` and `b`, of which `PARAM_NAMES` says this. -/
def catalogNaming (names : String) : Catalog where
  functions := [("f", ⟨"f", [("PARAMS", .text "OUT INT a, IN INT n, OUT INT b"), (Function.orderKey, .text "b, ..."),
    ("PARAM_NAMES", .text names)], "INT", .empty, .empty, true⟩)]
  types := [("INT", .new "INT")]
  strict := true

/-- The second name of `a` counts, and the name of `n` is no key. -/
theorem keyed_of_resolve_renamed :
    ∃ s names, resolve (catalogNaming "a = b, n = x, a = x") "f" = .ok s ∧ s.function.declaredNames = .ok names ∧
      s.shape.keys = ["b", "x"] ∧ ∀ p ∈ s.orderedOutputs, s.output? (Function.shown names p.name) = some p := by
  have hresolve : (resolve (catalogNaming "a = b, n = x, a = x") "f").map (fun s =>
      (s.shape.keys, decide (1 < s.shape.outputs.length))) = .ok (["b", "x"], true) := by decide +kernel
  obtain ⟨s, hs, hall⟩ := map_eq_ok_iff.mp hresolve
  obtain ⟨hkeys, hmany⟩ := Prod.mk.inj hall
  obtain ⟨names, hnames, h⟩ := keyed_of_resolve hs (of_decide_eq_true hmany)
  have hnodup : s.shape.keys.Nodup := by
    rw [hkeys]
    decide
  exact ⟨s, names, hs, hnames, hkeys, h.found_iff.mpr (h.nodup_iff.mp hnodup)⟩

/-- Both outputs are given one name, and only the first of them is found under it. -/
theorem resolve_repeats_key :
    ∃ s, resolve (catalogNaming "a = r, b = r") "f" = .ok s ∧ s.orderedOutputs.map (·.name) = ["b", "a"] ∧
      s.shape.keys = ["r", "r"] ∧ ¬s.shape.keys.Nodup ∧
      s.orderedOutputs.map (fun p => (s.output? p.param.displayName).map (·.name)) = [some "b", some "b"] := by
  have hresolve : (resolve (catalogNaming "a = r, b = r") "f").map (fun s => (s.orderedOutputs.map (·.name),
      s.shape.keys, s.orderedOutputs.map fun p => (s.output? p.param.displayName).map (·.name))) =
        .ok (["b", "a"], ["r", "r"], [some "b", some "b"]) := by decide +kernel
  obtain ⟨s, hs, hall⟩ := map_eq_ok_iff.mp hresolve
  rw [Prod.mk.injEq, Prod.mk.injEq] at hall
  obtain ⟨hordered, hkeys, hfound⟩ := hall
  refine ⟨s, hs, hordered, hkeys, ?_, hfound⟩
  rw [hkeys]
  decide

end Signature
end Bindery
