import Bindery.Attr.Value
import Bindery.Proofs.Entries

/-! # Merging trees

What merging keeps: a name that the second tree does not mention has the value it had, and entries under
other names than those of the second tree have no part in it. -/

namespace Bindery.Attr

theorem get?_merge_of_not_mem {target source : Tree} {name : String} (h : name ∉ Entries.names source) :
    Entries.get? (merge target source) name = Entries.get? target name := by
  induction source generalizing target with
  | nil => rfl
  | cons e rest ih =>
    obtain ⟨k, v⟩ := e
    rw [Entries.names, List.map_cons, List.mem_cons, not_or] at h
    rw [merge, ih h.2, Entries.get?_set_ne _ (Ne.symm h.1)]

/-- Merging into some of the entries, where the second tree has no names but theirs. -/
theorem filter_merge {p : String → Bool} {target source : Tree} (h : ∀ name ∈ Entries.names source, p name = true) :
    (merge target source).filter (fun e => p e.1) = merge (target.filter fun e => p e.1) source := by
  induction source generalizing target with
  | nil => rfl
  | cons e rest ih =>
    obtain ⟨k, v⟩ := e
    rw [Entries.names, List.map_cons, List.forall_mem_cons] at h
    rw [merge, merge, ih h.2, Entries.filter_set_of_pos _ h.1, Entries.get?_filter h.1]

end Bindery.Attr
