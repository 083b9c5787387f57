import Bindery.Proofs.Entries
import Bindery.Attr.Value

/-! # The keys of attribute trees

All keys of a tree, at every depth. Setting new keys to one value adds them and the keys of the value. -/

namespace Bindery.Attr

mutual
/-- The keys of a value, at every depth. -/
def Value.keys : Value → List String
  | .text _ | .list _ => []
  | .map entries => keys entries
termination_by structural v => v
/-- The keys of a tree, at every depth. -/
def keys : List (String × Value) → List String
  | [] => []
  | (k, v) :: rest => k :: (v.keys ++ keys rest)
termination_by structural es => es
end

variable {t u : Tree} {v : Value} {ks : List String} {k : String}

@[simp]
theorem Value.keys_text (s : String) : (Value.text s).keys = [] := by rw [Value.keys]

@[simp]
theorem Value.keys_map (t : Tree) : (Value.map t).keys = Attr.keys t := by rw [Value.keys]

@[simp]
theorem Value.keys_empty : Value.empty.keys = [] := by rw [Value.empty, Value.keys, Attr.keys]

theorem keys_append : keys (t ++ u) = keys t ++ keys u := by
  induction t with
  | nil => rfl
  | cons e rest ih =>
    obtain ⟨k, v⟩ := e
    simp only [List.cons_append, keys, ih, List.append_assoc]

theorem mem_keys_of_mem_names (h : k ∈ Entries.names t) : k ∈ keys t := by
  induction t with
  | nil => cases h
  | cons e rest ih =>
    obtain ⟨l, v⟩ := e
    rw [keys, List.mem_cons, List.mem_append]
    rcases List.mem_cons.mp h with rfl | h
    · exact Or.inl rfl
    · exact Or.inr (Or.inr (ih h))

theorem mem_keys_map (h : ks ≠ []) : k ∈ keys (ks.map fun l => (l, v)) ↔ k ∈ ks ∨ k ∈ v.keys := by
  induction ks with
  | nil => exact absurd rfl h
  | cons l ks ih =>
    rw [List.map_cons, keys, List.mem_cons, List.mem_append, List.mem_cons]
    cases ks with
    | nil => simp [keys]
    | cons l' ks =>
      rw [ih (List.cons_ne_nil _ _)]
      grind

/-- Setting new keys to a value loses none of the keys. -/
theorem mem_keys_setAll (hne : ks ≠ []) (hnodup : ks.Nodup) (hnew : ∀ l ∈ ks, l ∉ keys t) :
    k ∈ keys (Entries.setAll t (ks.map fun l => (l, v))) ↔ k ∈ keys t ∨ k ∈ ks ∨ k ∈ v.keys := by
  have hnames : Entries.names (ks.map fun l => (l, v)) = ks := by simp [Entries.names, Function.comp_def]
  rw [Entries.setAll_of_new (by rwa [hnames]), keys_append, List.mem_append, mem_keys_map hne]
  rw [hnames]
  exact fun l hl hmem => hnew l hl (mem_keys_of_mem_names hmem)

end Bindery.Attr
