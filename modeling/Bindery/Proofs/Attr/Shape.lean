import Bindery.Attr.Value
import Bindery.Proofs.Entries

/-! # The shape of attribute trees

Two properties that a tree has or has not at every depth: it holds no list, and no mapping in it gives two
values to one name. A tree that is built with `Entries.set` has the second one always; a list of entries
that is written down need not. -/

namespace Bindery.Attr

mutual
/-- Whether there is no list in a value. -/
def Value.isListFree : Value → Bool
  | .text _ => true
  | .list _ => false
  | .map entries => isListFree entries
termination_by structural v => v
/-- Whether there is no list in a tree. -/
def isListFree : List (String × Value) → Bool
  | [] => true
  | (_, v) :: rest => v.isListFree && isListFree rest
termination_by structural es => es
end

mutual
/-- Whether the names of every mapping in a value are distinct. -/
def Value.isDistinct : Value → Bool
  | .text _ | .list _ => true
  | .map entries => isDistinct entries
termination_by structural v => v
/-- Whether the names of a tree and of every mapping in it are distinct. -/
def isDistinct : List (String × Value) → Bool
  | [] => true
  | (k, v) :: rest => !Entries.has rest k && v.isDistinct && isDistinct rest
termination_by structural es => es
end

theorem isDistinct_cons {k : String} {v : Value} {rest : Tree} :
    isDistinct ((k, v) :: rest) = true ↔
      k ∉ Entries.names rest ∧ v.isDistinct = true ∧ isDistinct rest = true := by
  rw [isDistinct, Bool.and_eq_true, Bool.and_eq_true, Bool.not_eq_true', ← Bool.not_eq_true, Entries.has_iff,
    and_assoc]

theorem nodup_of_isDistinct {tree : Tree} (h : isDistinct tree = true) : (Entries.names tree).Nodup := by
  induction tree with
  | nil => exact List.nodup_nil
  | cons e rest ih =>
    obtain ⟨k, v⟩ := e
    obtain ⟨hk, -, hrest⟩ := isDistinct_cons.mp h
    rw [Entries.names, List.map_cons, List.nodup_cons]
    exact ⟨hk, ih hrest⟩

theorem isDistinct_iff {tree : Tree} :
    isDistinct tree = true ↔ (Entries.names tree).Nodup ∧ ∀ e ∈ tree, e.2.isDistinct = true := by
  induction tree with
  | nil => simp [isDistinct, Entries.names]
  | cons e rest ih =>
    obtain ⟨k, v⟩ := e
    rw [isDistinct_cons, ih, Entries.names_cons, List.nodup_cons, List.forall_mem_cons, and_assoc]
    exact and_congr_right fun _ => and_left_comm

end Bindery.Attr
