import Bindery.Entries
import Bindery.NameSet

/-! # Tallies

How often names have been counted. A tally lists every name that has been counted, in ascending order, with the number
of times. -/

namespace Bindery

/-- Counts a name once more, in its place if it has been counted and where the order puts it otherwise. -/
def countName (name : String) : Entries Nat → Entries Nat
  | [] => [(name, 1)]
  | (x, n) :: rest =>
    if name < x then (name, 1) :: (x, n) :: rest
    else if name = x then (x, n + 1) :: rest
    else (x, n) :: countName name rest

theorem names_countName (name : String) (t : Entries Nat) :
    Entries.names (countName name t) = insertName name (Entries.names t) := by
  induction t with
  | nil => rfl
  | cons e rest ih =>
    simp only [Entries.names] at ih
    simp only [countName, Entries.names, List.map_cons, insertName]
    split
    · rfl
    · split <;> simp [ih]

/-- The names that have been counted, with the number of times. -/
structure Tally where
  counts : Entries Nat
  ascending : (Entries.names counts).Pairwise (· < ·)

namespace Tally

theorem ascending_nil : (Entries.names ([] : Entries Nat)).Pairwise (· < ·) := .nil

/-- Nothing has been counted. -/
def empty : Tally := ⟨[], ascending_nil⟩

/-- Counts a name once more. -/
def add (t : Tally) (name : String) : Tally :=
  ⟨countName name t.counts, names_countName name t.counts ▸ insertName_ascending t.ascending⟩

/-- Counts several names, each as often as it is listed. -/
def addAll (t : Tally) (names : List String) : Tally := names.foldl add t

end Tally
end Bindery
