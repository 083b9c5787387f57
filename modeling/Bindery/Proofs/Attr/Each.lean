import Bindery.Proofs.Attr.Keys
import Bindery.Proofs.Attr.Shape

/-! # Trees of which every key and every text is of a kind

`Each K T` says of a tree that it holds no list, that every key has the property `K` and every text the
property `T`, at every depth. It is kept by setting keys that have `K` to values that are of this kind. -/

namespace Bindery.Attr

mutual
/-- The texts of a value, at every depth. -/
def Value.texts : Value → List String
  | .text s => [s]
  | .list _ => []
  | .map entries => texts entries
termination_by structural v => v
/-- The texts of a tree, at every depth. -/
def texts : List (String × Value) → List String
  | [] => []
  | (_, v) :: rest => v.texts ++ texts rest
termination_by structural es => es
end

mutual
/-- A value without lists in which every key has one property and every text another. -/
def Value.Each (K T : String → Prop) : Value → Prop
  | .text s => T s
  | .list _ => False
  | .map entries => Each K T entries
termination_by structural v => v
/-- A tree without lists in which every key has one property and every text another. -/
def Each (K T : String → Prop) : List (String × Value) → Prop
  | [] => True
  | (k, v) :: rest => (K k ∧ v.Each K T) ∧ Each K T rest
termination_by structural es => es
end

variable {K T : String → Prop} {t more : Tree}

theorem each_iff_forall_mem : Each K T t ↔ ∀ e ∈ t, K e.1 ∧ e.2.Each K T := by
  induction t with
  | nil => simp [Each]
  | cons e rest ih => rw [Each, List.forall_mem_cons, ih]

theorem Value.each_empty : Value.empty.Each K T := trivial

/-- Setting keys keeps a tree of its kind. -/
theorem Each.setAll (h : Each K T t) (hmore : Each K T more) : Each K T (Entries.setAll t more) := by
  rw [each_iff_forall_mem] at h hmore ⊢
  intro e he
  rcases Entries.mem_setAll he with he | he
  · exact h e he
  · exact hmore e he

mutual
theorem Value.each_iff : ∀ {v : Value}, v.Each K T ↔
    v.isListFree = true ∧ (∀ k ∈ v.keys, K k) ∧ ∀ s ∈ v.texts, T s
  | .text s => by simp [Value.Each, Value.isListFree, Value.texts]
  | .list items => by simp [Value.Each, Value.isListFree]
  | .map entries => by rw [Value.Each, Value.isListFree, Value.keys, Value.texts, each_iff]
/-- The kind of a tree, told by the list of its keys and the list of its texts. -/
theorem each_iff : ∀ {t : List (String × Value)}, Each K T t ↔
    isListFree t = true ∧ (∀ k ∈ keys t, K k) ∧ ∀ s ∈ texts t, T s
  | [] => by simp [Each, isListFree, keys, texts]
  | (k, v) :: rest => by
    rw [Each, Value.each_iff, each_iff, isListFree, keys, texts, Bool.and_eq_true, List.forall_mem_cons,
      List.forall_mem_append, List.forall_mem_append]
    constructor
    · rintro ⟨⟨hk, hfree, hkeys, htexts⟩, hfree', hkeys', htexts'⟩
      exact ⟨⟨hfree, hfree'⟩, ⟨hk, hkeys, hkeys'⟩, htexts, htexts'⟩
    · rintro ⟨⟨hfree, hfree'⟩, ⟨hk, hkeys, hkeys'⟩, htexts, htexts'⟩
      exact ⟨⟨hk, hfree, hkeys, htexts⟩, hfree', hkeys', htexts'⟩
end

end Bindery.Attr
