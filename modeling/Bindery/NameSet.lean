/-! # Sets of names

A finite set of names, kept as its members in ascending order. Equal sets are equal values. -/

namespace Bindery

/-- Puts a name into an ascending list, unless it is there. -/
def insertName (name : String) : List String → List String
  | [] => [name]
  | x :: xs => if name < x then name :: x :: xs else if name = x then x :: xs else x :: insertName name xs

theorem mem_insertName {name x : String} {xs : List String} :
    x ∈ insertName name xs ↔ x = name ∨ x ∈ xs := by
  induction xs with
  | nil => simp [insertName]
  | cons y ys ih =>
    simp only [insertName]
    split
    · simp
    · split
      · rename_i h; subst h; simp
      · simp only [List.mem_cons, ih]
        constructor
        · rintro (h | h | h) <;> simp [h]
        · rintro (h | h | h) <;> simp [h]

theorem insertName_ascending {name : String} {xs : List String} (h : xs.Pairwise (· < ·)) :
    (insertName name xs).Pairwise (· < ·) := by
  induction xs with
  | nil => simp [insertName]
  | cons y ys ih =>
    rw [List.pairwise_cons] at h
    simp only [insertName]
    split
    · rename_i hlt
      rw [List.pairwise_cons, List.pairwise_cons]
      refine ⟨?_, h.1, h.2⟩
      intro z hz
      rcases List.mem_cons.mp hz with rfl | hz
      · exact hlt
      · exact String.lt_trans hlt (h.1 z hz)
    · split
      · exact List.pairwise_cons.mpr h
      · rename_i hnlt hne
        rw [List.pairwise_cons]
        refine ⟨?_, ih h.2⟩
        intro z hz
        rcases mem_insertName.mp hz with rfl | hz
        · rcases Decidable.em (y < z) with hyz | hyz
          · exact hyz
          · exact absurd (String.le_antisymm hyz hnlt) hne
        · exact h.1 z hz

/-- A finite set of names. -/
structure NameSet where
  /-- The members, in ascending order. -/
  members : List String
  ascending : members.Pairwise (· < ·)

namespace NameSet

instance : Membership String NameSet := ⟨fun s x => x ∈ s.members⟩

instance (x : String) (s : NameSet) : Decidable (x ∈ s) := inferInstanceAs (Decidable (x ∈ s.members))

instance : DecidableEq NameSet := fun s t =>
  if h : s.members = t.members then isTrue (by cases s; cases t; cases h; rfl)
  else isFalse (fun e => h (e ▸ rfl))

/-- The set without members. -/
def empty : NameSet := ⟨[], .nil⟩

instance : Inhabited NameSet := ⟨empty⟩

/-- Adds a name. -/
def insert (s : NameSet) (x : String) : NameSet := ⟨insertName x s.members, insertName_ascending s.ascending⟩

/-- Adds several names. -/
def insertAll (s : NameSet) (xs : List String) : NameSet := xs.foldl insert s

/-- Takes a name away. -/
def erase (s : NameSet) (x : String) : NameSet := ⟨s.members.filter (· ≠ x), s.ascending.filter _⟩

theorem mem_def {s : NameSet} {x : String} : x ∈ s ↔ x ∈ s.members := Iff.rfl

theorem not_mem_empty (x : String) : x ∉ empty := List.not_mem_nil

theorem mem_insert {s : NameSet} {x y : String} : x ∈ s.insert y ↔ x = y ∨ x ∈ s := mem_insertName

theorem mem_insertAll {s : NameSet} {xs : List String} {x : String} :
    x ∈ s.insertAll xs ↔ x ∈ xs ∨ x ∈ s := by
  induction xs generalizing s with
  | nil => simp [insertAll]
  | cons y ys ih =>
    have := ih (s := s.insert y)
    simp only [insertAll, List.foldl_cons] at this ⊢
    rw [this, mem_insert, List.mem_cons]
    constructor
    · rintro (h | h | h) <;> simp [h]
    · rintro ((h | h) | h) <;> simp [h]

theorem mem_erase {s : NameSet} {x y : String} : x ∈ s.erase y ↔ x ∈ s ∧ x ≠ y := by
  simp [mem_def, erase]

theorem ext {s t : NameSet} (h : ∀ x, x ∈ s ↔ x ∈ t) : s = t := by
  obtain ⟨xs, hx⟩ := s
  obtain ⟨ys, hy⟩ := t
  have key : ∀ xs ys : List String, xs.Pairwise (· < ·) → ys.Pairwise (· < ·) →
      (∀ x, x ∈ xs ↔ x ∈ ys) → xs = ys := by
    intro xs
    induction xs with
    | nil =>
      intro ys _ _ h
      cases ys with
      | nil => rfl
      | cons y ys => exact absurd ((h y).mpr (by simp)) (by simp)
    | cons x xs ih =>
      intro ys hx hy h
      cases ys with
      | nil => exact absurd ((h x).mp (by simp)) (by simp)
      | cons y ys =>
        rw [List.pairwise_cons] at hx hy
        have hxy : x = y := by
          rcases List.mem_cons.mp ((h x).mp (by simp)) with e | e
          · exact e
          · rcases List.mem_cons.mp ((h y).mpr (by simp)) with e' | e'
            · exact e'.symm
            · exact absurd (String.lt_trans (hx.1 y e') (hy.1 x e)) (String.lt_irrefl x)
        subst hxy
        congr 1
        refine ih ys hx.2 hy.2 fun z => ?_
        have hz := h z
        simp only [List.mem_cons] at hz
        constructor
        · intro hm
          rcases hz.mp (Or.inr hm) with rfl | e
          · exact absurd (hx.1 z hm) (String.lt_irrefl z)
          · exact e
        · intro hm
          rcases hz.mpr (Or.inr hm) with rfl | e
          · exact absurd (hy.1 z hm) (String.lt_irrefl z)
          · exact e
  cases key xs ys hx hy h
  rfl

end NameSet
end Bindery
