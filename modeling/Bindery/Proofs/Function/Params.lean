import Bindery.Function.Basic
import Bindery.Proofs.Entries
import Bindery.Proofs.Except

/-! # Tables of parameters

The items of `PARAMS` declare the parameters, each under a name of its own. Dependencies and display names are added
to the table later and change nothing of what is declared (`declares_of_params`). -/

namespace Bindery

/-- What the item of a parameter says of it: all but its dependencies and its display name. -/
def Param.declared (p : Param) : Param := { p with dependencies := [], outputName := none }

theorem Param.declared_of_parse {function item : String} {p : Param} (h : parse function item = .ok p) :
    p.declared = p := by
  unfold parse at h
  generalize Text.trim item = item at h
  generalize takeDefault item = d at h
  obtain ⟨head, default⟩ := d
  dsimp only at h
  split at h
  · cases h
  · generalize takeFlags (Text.words head) = flags at h
    obtain ⟨primary, optional, words⟩ := flags
    generalize takeMode words = m at h
    obtain ⟨mode, words⟩ := m
    split at h
    · rw [← Except.ok.inj h]
      rfl
    · cases h

theorem Text.ne_empty_of_mem_words {s word : String} (h : word ∈ words s) : word ≠ "" := by
  obtain ⟨cs, hcs, rfl⟩ := List.mem_map.mp h
  have hne := (List.mem_filter.mp hcs).2
  rintro hempty
  rw [String.ofList_eq_empty_iff.mp hempty] at hne
  cases hne

theorem Param.takeFlags_suffix (words : List String) : (takeFlags words).2.2 <:+ words := by
  induction words with
  | nil => exact List.suffix_rfl
  | cons word rest ih =>
    rw [takeFlags]
    split
    · exact ih.trans (List.suffix_cons word rest)
    · split
      · exact ih.trans (List.suffix_cons word rest)
      · exact List.suffix_rfl

theorem Param.takeMode_suffix (words : List String) : (takeMode words).2 <:+ words := by
  cases words with
  | nil => exact List.suffix_rfl
  | cons word rest =>
    rw [takeMode]
    split
    · exact List.suffix_cons word rest
    · exact List.suffix_rfl

theorem Param.name_ne_empty_of_parse {function item : String} {p : Param} (h : parse function item = .ok p) :
    p.name ≠ "" := by
  unfold parse at h
  dsimp only at h
  generalize takeDefault (Text.trim item) = d at h
  split at h
  · cases h
  · have hsuffix := (takeMode_suffix (takeFlags (Text.words d.1)).2.2).trans (takeFlags_suffix (Text.words d.1))
    generalize takeMode (takeFlags (Text.words d.1)).2.2 = m at h hsuffix
    split at h
    · rename_i type name hm
      obtain rfl := Except.ok.inj h
      rw [hm] at hsuffix
      exact Text.ne_empty_of_mem_words (hsuffix.subset (by simp))
    · cases h

namespace Function
variable {f : Function} {table t : ParamTable}

/-- The items of `PARAMS`; without this attribute there are none. -/
def paramItems? (f : Function) : Option (List String) :=
  match f.attr? "PARAMS" with
  | some v => v.items?
  | none => some []

/-- The items of `PARAMS` declare these parameters, each under a name of its own. -/
structure Declares (f : Function) (ps : List Param) : Prop where
  items : ∃ items, f.paramItems? = some items ∧ items.mapM (Param.parse f.name) = .ok ps
  nodup : (ps.map (·.name)).Nodup

/-- Parameters under their names. -/
def tableOf (ps : List Param) : ParamTable := ps.map fun p => (p.name, p)

theorem names_tableOf (ps : List Param) : Entries.names (tableOf ps) = ps.map (·.name) := List.map_map ..

theorem values_tableOf (ps : List Param) : Entries.values (tableOf ps) = ps := by
  simp [Entries.values, tableOf, Function.comp_def]

theorem declare_eq_ok {function : String} {items : List String} {ps : List Param} (hps : (ps.map (·.name)).Nodup)
    (h : declare function (tableOf ps) items = .ok t) :
    ∃ qs, items.mapM (Param.parse function) = .ok qs ∧ t = tableOf (ps ++ qs) ∧ ((ps ++ qs).map (·.name)).Nodup := by
  induction items generalizing ps with
  | nil =>
    cases h
    exact ⟨[], rfl, by rw [List.append_nil], by rwa [List.append_nil]⟩
  | cons item items ih =>
    rw [declare] at h
    split at h
    · cases h
    · rename_i p hp
      split at h
      · cases h
      · rename_i hnew
        rw [Entries.has_iff] at hnew
        have htable : Entries.set (tableOf ps) p.name p = tableOf (ps ++ [p]) := by
          rw [Entries.set_of_not_mem p hnew, tableOf, tableOf, List.map_append, List.map_singleton]
        have hnodup : ((ps ++ [p]).map (·.name)).Nodup := by
          rw [← names_tableOf, ← htable]
          exact Entries.names_set_nodup p.name p (by rwa [names_tableOf])
        rw [htable] at h
        obtain ⟨qs, hqs, ht, hall⟩ := ih hnodup h
        rw [List.append_assoc, List.singleton_append] at ht hall
        exact ⟨p :: qs, mapM_cons_eq_ok_iff.mpr ⟨p, hp, qs, hqs, rfl⟩, ht, hall⟩

/-- Items that declare parameters under distinct names are taken in one after the other. -/
theorem declare_of_mapM {function : String} {items : List String} {ps qs : List Param}
    (hitems : items.mapM (Param.parse function) = .ok qs) (hnodup : ((ps ++ qs).map (·.name)).Nodup) :
    declare function (tableOf ps) items = .ok (tableOf (ps ++ qs)) := by
  induction items generalizing ps qs with
  | nil =>
    obtain rfl : [] = qs := pure_eq_ok_iff.mp hitems
    rw [List.append_nil, declare]
  | cons item items ih =>
    obtain ⟨p, hp, qs, hqs, rfl⟩ := mapM_cons_eq_ok_iff.mp hitems
    have hnew : p.name ∉ Entries.names (tableOf ps) := by
      rw [List.map_append, List.nodup_append] at hnodup
      rw [names_tableOf]
      exact fun hmem => hnodup.2.2 p.name hmem p.name List.mem_cons_self rfl
    have htable : Entries.set (tableOf ps) p.name p = tableOf (ps ++ [p]) := by
      rw [Entries.set_of_not_mem p hnew, tableOf, tableOf, List.map_append, List.map_singleton]
    have hall : ps ++ p :: qs = ps ++ [p] ++ qs := by simp
    rw [declare, hp]
    simp only
    rw [if_neg (mt Entries.has_iff.mp hnew), htable, hall]
    exact ih hqs (hall ▸ hnodup)

theorem declares_of_declaredTable (h : f.declaredTable = .ok table) : ∃ ps, f.Declares ps ∧ table = tableOf ps := by
  unfold declaredTable at h
  split at h
  · rename_i v hv
    unfold declaredParams listItems at h
    split at h
    · cases h
    · rename_i items hitems
      split at hitems
      · rename_i items' hv'
        obtain rfl := Except.ok.inj hitems
        have hnil : (([] : List Param).map (·.name)).Nodup := List.nodup_nil
        obtain ⟨ps, hps, rfl, hnodup⟩ := declare_eq_ok hnil h
        have hall : f.paramItems? = some items' := by simp only [paramItems?, hv, hv']
        exact ⟨ps, ⟨⟨items', hall, hps⟩, hnodup⟩, rfl⟩
      · cases hitems
  · rename_i hnone
    obtain rfl := Except.ok.inj h
    exact ⟨[], ⟨⟨[], by rw [paramItems?, hnone], rfl⟩, List.nodup_nil⟩, rfl⟩

/-- What is declared of the parameters of a table. -/
def declarations (table : ParamTable) : ParamTable := table.map fun e => (e.1, e.2.declared)

theorem names_declarations (table : ParamTable) : Entries.names (declarations table) = Entries.names table := by
  simp [Entries.names, declarations, Function.comp_def]

theorem values_declarations (table : ParamTable) :
    Entries.values (declarations table) = (Entries.values table).map Param.declared := by
  simp [Entries.values, declarations, Function.comp_def]

theorem Declares.declarations {ps : List Param} (h : f.Declares ps) : declarations (tableOf ps) = tableOf ps := by
  obtain ⟨items, -, hps⟩ := h.items
  calc Function.declarations (tableOf ps)
    _ = ps.map fun p => (p.name, p.declared) := List.map_map ..
    _ = tableOf ps := List.map_congr_left fun p hp => by
      rw [forall_mem_of_mapM_eq_ok (fun _ _ => Param.declared_of_parse) hps p hp]

theorem declarations_attach {d : Dependency} (h : f.attach table d = .ok t) : declarations t = declarations table := by
  unfold attach at h
  split at h
  · cases hon : f.resolveDependencies table d.parameter d.on with
    | error e =>
      rw [hon] at h
      cases h
    | ok on =>
      rw [hon] at h
      cases h
      exact Entries.map_modify (g := Param.declared)
        (f := fun p => { p with dependencies := p.dependencies ++ on }) (fun _ => rfl) table d.parameter
  · split at h <;> cases h
    rfl

theorem declarations_nameOutput {e : String × String} (h : f.nameOutput table e = .ok t) :
    declarations t = declarations table := by
  unfold nameOutput at h
  split at h <;> cases h
  exact Entries.map_modify (g := Param.declared) (f := fun p => { p with outputName := some e.2 }) (fun _ => rfl)
    table e.1

/-- The parameters are those that are declared, in the order of their declaration, each under its name. -/
theorem declares_of_params (h : f.params = .ok table) :
    f.Declares ((Entries.values table).map Param.declared) ∧
      Entries.names table = (Entries.values table).map (·.name) := by
  rw [params, bind_eq_ok_iff] at h
  obtain ⟨t, ht, h⟩ := h
  rw [bind_eq_ok_iff] at h
  obtain ⟨ds, -, h⟩ := h
  rw [bind_eq_ok_iff] at h
  obtain ⟨t', ht', h⟩ := h
  rw [bind_eq_ok_iff] at h
  obtain ⟨names, -, h⟩ := h
  obtain ⟨ps, hps, rfl⟩ := declares_of_declaredTable ht
  have htable : declarations table = tableOf ps :=
    calc declarations table
      _ = declarations t' := foldlM_eq_ok_preserves (fun _ _ _ => declarations_nameOutput) h
      _ = declarations (tableOf ps) := foldlM_eq_ok_preserves (fun _ _ _ => declarations_attach) ht'
      _ = tableOf ps := hps.declarations
  have hvalues : (Entries.values table).map Param.declared = ps := by
    rw [← values_declarations, htable, values_tableOf]
  refine ⟨hvalues ▸ hps, ?_⟩
  calc Entries.names table
    _ = ps.map (·.name) := by rw [← names_declarations, htable, names_tableOf]
    _ = (Entries.values table).map (·.name) := by rw [← hvalues, List.map_map]; rfl

end Function
end Bindery
