import Bindery.Proofs.Attr.Paths
import Bindery.Proofs.Except
import Bindery.Yaml.Reader

/-! # What becomes of the entries of a mapping

A mapping becomes a tree whose names are the texts of its keys, in the order in which they come up first. Keys that
are not the same may have one text, such as the number 1 and the string of that digit; then the value of the later
entry takes the place of the earlier one. So a tree has fewer entries than the mapping just where two keys have one
text (`Collected`), and nothing is lost if that is so of no mapping, at any depth (`keeps_iff`). -/

namespace Bindery.Yaml.Value
open Attr (Tree)

variable {name : String} {v : Value} {a : Attr.Value} {entries : List (Value × Value)} {tree : Tree}

/-- The entries of a mapping by the texts of their keys. -/
def byName (entries : List (Value × Value)) : Entries Value :=
  entries.filterMap fun e => e.1.scalar?.map fun key => (key, e.2)

/-- The texts of the keys of a mapping, as often as they come up. -/
def keyNames (entries : List (Value × Value)) : List String := Entries.names (byName entries)

/-! ### Entry by entry -/

/-- An entry of a mapping as an entry of a tree. -/
def toEntry (name : String) (e : Value × Value) : Except Error (String × Attr.Value) :=
  match e.1.scalar? with
  | none => .error (refused name "mapping keys must be scalars")
  | some key => (toAttr name e.2).map fun a => (key, a)

theorem toEntry_eq_ok_iff {e : Value × Value} {d : String × Attr.Value} :
    toEntry name e = .ok d ↔ e.1.scalar? = some d.1 ∧ toAttr name e.2 = .ok d.2 := by
  obtain ⟨key, b⟩ := d
  rw [toEntry]
  split
  · rename_i hkey
    simp [hkey]
  · rename_i key' hkey
    rw [map_eq_ok_iff]
    simp [hkey, and_comm]

theorem toTree_eq (name : String) (tree : Tree) (entries : List (Value × Value)) :
    toTree name tree entries = (entries.mapM (toEntry name)).map (Entries.setAll tree) := by
  induction entries generalizing tree with
  | nil => rfl
  | cons e rest ih =>
    obtain ⟨k, v⟩ := e
    rw [toTree, List.mapM_cons, toEntry]
    cases k.scalar? with
    | none => rfl
    | some key =>
      cases toAttr name v with
      | error e => rfl
      | ok b =>
        simp only [ih]
        cases rest.mapM (toEntry name) <;> rfl

theorem toAttr_mapping_eq_ok_iff : toAttr name (.mapping entries) = .ok a ↔
    ∃ es, List.Forall₂ (fun e d => toEntry name e = .ok d) entries es ∧ .map (Entries.ofList es) = a := by
  rw [toAttr, toTree_eq, map_eq_ok_iff]
  simp only [map_eq_ok_iff, mapM_eq_ok_iff_forall₂]
  constructor
  · rintro ⟨tree, ⟨es, hes, rfl⟩, rfl⟩
    exact ⟨es, hes, rfl⟩
  · rintro ⟨es, hes, rfl⟩
    exact ⟨_, ⟨es, hes, rfl⟩, rfl⟩

theorem forall₂_byName {es : List (String × Attr.Value)}
    (h : List.Forall₂ (fun e d => toEntry name e = .ok d) entries es) :
    List.Forall₂ (fun e d => e.1 = d.1 ∧ toAttr name e.2 = .ok d.2) (byName entries) es := by
  induction h with
  | nil => exact .nil
  | @cons e d entries es hed _ ih =>
    obtain ⟨hkey, hvalue⟩ := toEntry_eq_ok_iff.mp hed
    rw [byName, List.filterMap_cons_some (by rw [hkey]; rfl)]
    exact .cons ⟨rfl, hvalue⟩ ih

theorem names_eq_of_forall₂ {es : List (String × Attr.Value)}
    (h : List.Forall₂ (fun e d => toEntry name e = .ok d) entries es) : Entries.names es = keyNames entries := by
  have hnames : List.Forall₂ (· = ·) (keyNames entries) (Entries.names es) := by
    rw [keyNames, Entries.names, Entries.names, List.forall₂_map_left_iff, List.forall₂_map_right_iff]
    exact (forall₂_byName h).imp fun _ _ hed => hed.1
  exact (List.forall₂_eq_eq_eq ▸ hnames).symm

/-! ### Paths -/

/-- The entries of a mapping, whatever its tags. -/
def entries? : Value → Option (List (Value × Value))
  | .mapping entries => some entries
  | .tagged _ v => v.entries?
  | .null | .bool _ | .number _ | .string _ | .sequence _ => none

theorem toAttr_of_entries? (name : String) :
    ∀ {v : Value}, v.entries? = some entries → toAttr name v = toAttr name (.mapping entries)
  | .mapping _, h => by rw [Option.some.inj h]
  | .tagged _ v, h => toAttr_of_entries? name (v := v) h

theorem at?_cons_of_entries?_eq_none {key : String} {path : List String} :
    ∀ {v : Value} {a : Attr.Value}, toAttr name v = .ok a → v.entries? = none → a.at? (key :: path) = none
  | .tagged _ v, _, h, hentries => at?_cons_of_entries?_eq_none (v := v) h hentries
  | .null, _, h, _ | .bool _, _, h, _ | .number _, _, h, _ | .string _, _, h, _ => by
    cases h
    rfl
  | .sequence _, _, h, _ => by
    obtain ⟨texts, -, rfl⟩ := map_eq_ok_iff.mp h
    rfl

/-- What a value holds at a path of names, of which each leads to the last entry whose key has it as its text. -/
def at? : Value → List String → Option Value
  | v, [] => some v
  | v, key :: path =>
    v.entries?.bind fun entries => (Entries.get? (byName entries).reverse key).bind fun w => w.at? path

/-- A value and the attribute it becomes hold something at the same paths. -/
theorem map_at? (h : toAttr name v = .ok a) (path : List String) :
    (v.at? path).map (toAttr name) = (a.at? path).map .ok := by
  induction path generalizing v a with
  | nil => exact congrArg some h
  | cons key path ih =>
    rw [at?]
    cases hv : v.entries? with
    | none => rw [at?_cons_of_entries?_eq_none h hv, Option.bind_none, Option.map_none, Option.map_none]
    | some entries =>
      rw [toAttr_of_entries? name hv] at h
      obtain ⟨es, hes, rfl⟩ := toAttr_mapping_eq_ok_iff.mp h
      have hget := Entries.map_get?_of_forall₂ (List.forall₂_reverse_iff.mpr (forall₂_byName hes)) key
      rw [Option.bind_some, Attr.Value.at?, Entries.get?_ofList]
      cases hw : Entries.get? (byName entries).reverse key with
      | none =>
        rw [hw, Option.map_none, eq_comm, Option.map_eq_none_iff] at hget
        rw [hget]
        rfl
      | some w =>
        rw [hw, Option.map_some, eq_comm, Option.map_eq_some_iff] at hget
        obtain ⟨b, hb, hwb⟩ := hget
        rw [hb]
        exact ih hwb.symm

/-! ### The number of entries -/

/-- A mapping has become a tree with one entry for each text of a key, in the order in which they come up. -/
theorem exists_tree_of_mapping (h : toAttr name (.mapping entries) = .ok a) :
    ∃ tree, a = .map tree ∧ Entries.names tree = (keyNames entries).eraseDups ∧
      (tree.length = entries.length ↔ (keyNames entries).Nodup) := by
  obtain ⟨es, hes, rfl⟩ := toAttr_mapping_eq_ok_iff.mp h
  have hnames : Entries.names (Entries.ofList es) = (keyNames entries).eraseDups := by
    rw [Entries.names_ofList, names_eq_of_forall₂ hes]
  refine ⟨_, rfl, hnames, ?_⟩
  have htree : (Entries.ofList es).length = (keyNames entries).eraseDups.length := by
    rw [← hnames, Entries.names, List.length_map]
  have hentries : entries.length = (keyNames entries).length := by
    rw [← names_eq_of_forall₂ hes, Entries.names, List.length_map, hes.length_eq]
  rw [htree, hentries, ← eraseDups_eq_self_iff]
  exact ⟨(eraseDups_sublist _).eq_of_length, congrArg List.length⟩

/-! ### Entries that are kept -/

mutual
/-- An attribute that shows every mapping of a value entry for entry, at every depth. -/
def Keeps : Value → Attr.Value → Prop
  | .mapping entries, .map tree => KeepsEntries entries tree
  | .mapping _, .text _ | .mapping _, .list _ => False
  | .tagged _ v, a => v.Keeps a
  | .null, _ | .bool _, _ | .number _, _ | .string _, _ | .sequence _, _ => True
termination_by structural v => v
/-- A tree that shows entries in their order, each under the text of its key. -/
def KeepsEntries : List (Value × Value) → List (String × Attr.Value) → Prop
  | [], tree => tree = []
  | (k, v) :: rest, tree =>
    ∃ key a tree', tree = (key, a) :: tree' ∧ k.scalar? = some key ∧ v.Keeps a ∧ KeepsEntries rest tree'
termination_by structural es => es
end

mutual
/-- The entries of every mapping of a value have a property. Keys and items are left out, which hold no mapping where
a value becomes an attribute. -/
def EveryMapping (P : List (Value × Value) → Prop) : Value → Prop
  | .mapping entries => P entries ∧ EveryMappingIn P entries
  | .tagged _ v => v.EveryMapping P
  | .null | .bool _ | .number _ | .string _ | .sequence _ => True
termination_by structural v => v
/-- The entries of every mapping of the values of some entries have a property. -/
def EveryMappingIn (P : List (Value × Value) → Prop) : List (Value × Value) → Prop
  | [] => True
  | (_, v) :: rest => v.EveryMapping P ∧ EveryMappingIn P rest
termination_by structural es => es
end

theorem keyNames_cons {k : Value} {key : String} (h : k.scalar? = some key) (v : Value) (entries : List (Value × Value)) :
    keyNames ((k, v) :: entries) = key :: keyNames entries := by
  rw [keyNames, byName, List.filterMap_cons_some (by rw [h]; rfl)]
  rfl

theorem names_of_keepsEntries (h : KeepsEntries entries tree) : Entries.names tree = keyNames entries := by
  induction entries generalizing tree with
  | nil => rw [h]; rfl
  | cons e rest ih =>
    obtain ⟨k, v⟩ := e
    obtain ⟨key, a, tree', rfl, hkey, -, hrest⟩ := h
    rw [keyNames_cons hkey, Entries.names_cons, ih hrest]

mutual
/-- Nothing is lost just where the keys of every mapping have distinct texts. -/
theorem keeps_iff : ∀ {v : Value} {a : Attr.Value}, toAttr name v = .ok a →
    (v.Keeps a ↔ v.EveryMapping fun entries => (keyNames entries).Nodup)
  | .mapping entries, a, h => by
    obtain ⟨es, hes, rfl⟩ := toAttr_mapping_eq_ok_iff.mp h
    rw [Keeps, EveryMapping, ← keepsEntries_iff hes]
    have hnames := names_eq_of_forall₂ hes
    constructor
    · intro hkeeps
      -- The tree has the texts of all keys as its names, and the names of a tree are distinct.
      have hnodup : (keyNames entries).Nodup := by
        rw [← names_of_keepsEntries hkeeps, Entries.names_ofList]
        exact nodup_eraseDups _
      rw [Entries.ofList_of_nodup (hnames ▸ hnodup)] at hkeeps
      exact ⟨hnodup, hkeeps⟩
    · rintro ⟨hnodup, hkeeps⟩
      rwa [Entries.ofList_of_nodup (hnames ▸ hnodup)]
  | .tagged _ v, _, h => keeps_iff (v := v) h
  | .null, _, _ | .bool _, _, _ | .number _, _, _ | .string _, _, _ | .sequence _, _, _ => Iff.rfl
theorem keepsEntries_iff : ∀ {entries : List (Value × Value)} {es : List (String × Attr.Value)},
    List.Forall₂ (fun e d => toEntry name e = .ok d) entries es →
      (KeepsEntries entries es ↔ EveryMappingIn (fun entries => (keyNames entries).Nodup) entries)
  | [], _, .nil => iff_of_true rfl trivial
  | (k, v) :: rest, (key, a) :: es, .cons hed hrest => by
    obtain ⟨hkey, hvalue⟩ := toEntry_eq_ok_iff.mp hed
    rw [KeepsEntries, EveryMappingIn, ← keeps_iff hvalue, ← keepsEntries_iff hrest]
    constructor
    · rintro ⟨key', a', tree', heq, -, hv, hrest⟩
      cases heq
      exact ⟨hv, hrest⟩
    · rintro ⟨hv, hrest⟩
      exact ⟨key, a, es, rfl, hkey, hv, hrest⟩
end

/-! ### Strings as keys -/

mutual
theorem EveryMapping.imp {P Q : List (Value × Value) → Prop} (h : ∀ entries, P entries → Q entries) :
    ∀ {v : Value}, v.EveryMapping P → v.EveryMapping Q
  | .mapping entries, hv => ⟨h entries hv.1, EveryMappingIn.imp h hv.2⟩
  | .tagged _ v, hv => EveryMapping.imp h (v := v) hv
  | .null, _ | .bool _, _ | .number _, _ | .string _, _ | .sequence _, _ => trivial
theorem EveryMappingIn.imp {P Q : List (Value × Value) → Prop} (h : ∀ entries, P entries → Q entries) :
    ∀ {entries : List (Value × Value)}, EveryMappingIn P entries → EveryMappingIn Q entries
  | [], _ => trivial
  | (_, _) :: _, hv => ⟨EveryMapping.imp h hv.1, EveryMappingIn.imp h hv.2⟩
end

/-- Every key is a string and has no tag. -/
def StringKeys (entries : List (Value × Value)) : Prop := ∀ e ∈ entries, ∃ s, e.1 = .string s

theorem nodup_keyNames_of_stringKeys (hdistinct : distinctKeys (entries.map (·.1)) = true)
    (hstrings : StringKeys entries) : (keyNames entries).Nodup := by
  induction entries with
  | nil => exact List.nodup_nil
  | cons e rest ih =>
    obtain ⟨k, v⟩ := e
    obtain ⟨⟨s, rfl⟩, hrest⟩ := List.forall_mem_cons.mp hstrings
    rw [List.map_cons, distinctKeys, Bool.and_eq_true, Bool.not_eq_true', List.any_eq_false] at hdistinct
    rw [keyNames_cons rfl, List.nodup_cons]
    refine ⟨fun hmem => ?_, ih hdistinct.2 hrest⟩
    obtain ⟨d, hd, rfl⟩ := List.mem_map.mp hmem
    obtain ⟨e, he, hed⟩ := List.mem_filterMap.mp hd
    obtain ⟨t, ht⟩ := hrest e he
    rw [ht, scalar?, Option.map_some, Option.some.injEq] at hed
    subst hed
    refine hdistinct.1 e.1 (List.mem_map_of_mem he) ?_
    rw [ht, same]
    exact beq_self_eq_true t

/-! ### Every value -/

theorem eq_refused_of_itemTexts {items : List Value} {e : Error} (h : itemTexts name items = .error e) :
    e = refused name "sequence items must be scalars" := by
  induction items with
  | nil => cases h
  | cons v rest ih =>
    rw [itemTexts] at h
    split at h
    · exact ih (map_eq_error_iff.mp h)
    · cases h
      rfl

mutual
theorem exists_of_toAttr_eq_error : ∀ {v : Value} {e : Error}, toAttr name v = .error e →
    ∃ reason ∈ ["mapping keys must be scalars", "sequence items must be scalars"], e = refused name reason
  | .mapping _, _, h => by
    rw [toAttr, map_eq_error_iff] at h
    exact exists_of_toTree_eq_error h
  | .sequence _, _, h => by
    rw [toAttr, map_eq_error_iff] at h
    exact ⟨_, List.mem_cons_of_mem _ List.mem_cons_self, eq_refused_of_itemTexts h⟩
  | .tagged _ v, _, h => exists_of_toAttr_eq_error (v := v) h
  | .null, _, h | .bool _, _, h | .number _, _, h | .string _, _, h => by
    rw [toAttr] at h
    cases h
theorem exists_of_toTree_eq_error : ∀ {entries : List (Value × Value)} {tree : Tree} {e : Error},
    toTree name tree entries = .error e →
    ∃ reason ∈ ["mapping keys must be scalars", "sequence items must be scalars"], e = refused name reason
  | [], _, _, h => by
    rw [toTree] at h
    cases h
  | (k, v) :: rest, tree, e, h => by
    rw [toTree] at h
    split at h
    · cases h
      exact ⟨_, List.mem_cons_self, rfl⟩
    · split at h
      · exact exists_of_toTree_eq_error h
      · rename_i hv
        cases h
        exact exists_of_toAttr_eq_error hv
end

/-- What a value has become as an attribute. -/
structure Collected (name : String) (v : Value) (a : Attr.Value) : Prop where
  /-- Both hold something at the same paths, and what the value holds there has become what the attribute holds. -/
  paths : ∀ path, (v.at? path).map (toAttr name) = (a.at? path).map .ok
  /-- A mapping anywhere has become a tree with one entry for each text of a key, and with as many entries as it has
  where no two keys have one text. -/
  mappings : ∀ path w entries, v.at? path = some w → w.entries? = some entries → ∃ tree, a.at? path = some (.map tree) ∧
    Entries.names tree = (keyNames entries).eraseDups ∧ (tree.length = entries.length ↔ (keyNames entries).Nodup)
  /-- Nothing is lost just where this holds of every mapping. -/
  keeps : v.Keeps a ↔ v.EveryMapping fun entries => (keyNames entries).Nodup
  /-- In particular nothing is lost where all keys are strings and no two keys of a mapping are the same. -/
  strings : v.EveryMapping (fun entries => distinctKeys (entries.map (·.1)) = true ∧ StringKeys entries) → v.Keeps a

/-- Every value becomes an attribute in which its mappings are collected by the texts of their keys, or is refused. -/
theorem collected_or_refused (name : String) (v : Value) :
    (∃ a, toAttr name v = .ok a ∧ Collected name v a) ∨
      ∃ reason ∈ ["mapping keys must be scalars", "sequence items must be scalars"],
        toAttr name v = .error (refused name reason) := by
  cases h : toAttr name v with
  | error e =>
    obtain ⟨reason, hreason, rfl⟩ := exists_of_toAttr_eq_error h
    exact Or.inr ⟨reason, hreason, rfl⟩
  | ok a =>
    refine Or.inl ⟨a, rfl, map_at? h, fun path w entries hw hentries => ?_, keeps_iff h, fun hstrings => ?_⟩
    · have hpath := map_at? h path
      rw [hw, Option.map_some, eq_comm, Option.map_eq_some_iff] at hpath
      obtain ⟨b, hb, hwb⟩ := hpath
      rw [toAttr_of_entries? name hentries] at hwb
      obtain ⟨tree, rfl, hnames, hlength⟩ := exists_tree_of_mapping hwb.symm
      exact ⟨tree, hb, hnames, hlength⟩
    · exact (keeps_iff h).mpr (hstrings.imp fun _ hes => nodup_keyNames_of_stringKeys hes.1 hes.2)

/-- The number 1 and the string of that digit are two keys of a mapping and one name of its tree. -/
theorem one_name_of_two_keys :
    distinctKeys [.number (.integer 1), .string "1"] = true ∧
      toAttr "in.yaml" (.mapping [(.number (.integer 1), .string "a"), (.string "1", .string "b")]) =
        .ok (.map [("1", .text "b")]) ∧
      ¬Keeps (.mapping [(.number (.integer 1), .string "a"), (.string "1", .string "b")]) (.map [("1", .text "b")]) ∧
      read "in.yaml" "1: a\n'1': b\n" = .ok [("1", .text "b")] := by
  have h : toAttr "in.yaml" (.mapping [(.number (.integer 1), .string "a"), (.string "1", .string "b")]) =
      .ok (.map [("1", .text "b")]) := by decide
  refine ⟨by decide, h, fun hkeeps => ?_, by decide +kernel⟩
  have hnodup : ["1", "1"].Nodup := ((keeps_iff h).mp hkeeps).1
  simp at hnodup

end Bindery.Yaml.Value
