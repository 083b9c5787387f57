/-! # Entries in order of first mention

A finite map from names to values that remembers the order in which its names were first mentioned. A
name that is set again keeps its place and takes the new value; this is the order in which functions,
types, parameters and attributes are listed. -/

namespace Bindery

/-- Names with their values, in order of first mention. -/
abbrev Entries (α : Type) := List (String × α)

namespace Entries

variable {α β : Type}

/-- The value of a name. -/
def get? : Entries α → String → Option α
  | [], _ => none
  | (k, v) :: rest, name => if k = name then some v else get? rest name

/-- Whether a name has a value. -/
def has (t : Entries α) (name : String) : Bool := (get? t name).isSome

/-- Sets the value of a name, in its place if it has one and at the end otherwise. -/
def set : Entries α → String → α → Entries α
  | [], name, value => [(name, value)]
  | (k, v) :: rest, name, value =>
    if k = name then (k, value) :: rest else (k, v) :: set rest name value

/-- Drops a name. -/
def drop : Entries α → String → Entries α
  | [], _ => []
  | (k, v) :: rest, name => if k = name then rest else (k, v) :: drop rest name

/-- Changes the value of a name, if it has one. -/
def modify (t : Entries α) (name : String) (f : α → α) : Entries α :=
  match get? t name with
  | some v => set t name (f v)
  | none => t

/-- The names, in order of first mention. -/
def names (t : Entries α) : List String := t.map (·.1)

/-- The values, in order of first mention of their names. -/
def values (t : Entries α) : List α := t.map (·.2)

/-- Sets names one after the other. -/
def setAll (t : Entries α) (more : List (String × α)) : Entries α :=
  more.foldl (fun t e => set t e.1 e.2) t

/-- The entries of a list in which a name may be mentioned several times. -/
def ofList (es : List (String × α)) : Entries α := setAll [] es

/-! ### What `get?`, `names` and `set` say of each other -/

theorem get?_set_self (t : Entries α) (name : String) (value : α) :
    get? (set t name value) name = some value := by
  induction t with
  | nil => simp [set, get?]
  | cons e rest ih =>
    obtain ⟨k, v⟩ := e
    by_cases h : k = name <;> simp [set, get?, h, ih]

theorem get?_set_ne {t : Entries α} {name other : String} (value : α) (h : name ≠ other) :
    get? (set t name value) other = get? t other := by
  induction t with
  | nil => simp [set, get?, h]
  | cons e rest ih =>
    obtain ⟨k, v⟩ := e
    by_cases hk : k = name
    · subst hk; simp [set, get?, h]
    · by_cases ho : k = other
      · subst ho; simp [set, get?, hk]
      · simp [set, get?, hk, ho, ih]

theorem get?_set (t : Entries α) (name other : String) (value : α) :
    get? (set t name value) other = if name = other then some value else get? t other := by
  split
  · rename_i h; subst h; exact get?_set_self t name value
  · rename_i h; exact get?_set_ne value h

theorem get?_eq_none_iff {t : Entries α} {name : String} : get? t name = none ↔ name ∉ names t := by
  induction t with
  | nil => simp [get?, names]
  | cons e rest ih =>
    obtain ⟨k, v⟩ := e
    simp only [names] at ih
    by_cases h : k = name
    · simp [get?, names, h]
    · simp [get?, names, h, ih, Ne.symm h]

theorem has_iff {t : Entries α} {name : String} : has t name = true ↔ name ∈ names t := by
  have h := @get?_eq_none_iff _ t name
  cases hg : get? t name <;> simp_all [has]

theorem names_set_of_mem {t : Entries α} {name : String} (value : α) (h : name ∈ names t) :
    names (set t name value) = names t := by
  induction t with
  | nil => simp [names] at h
  | cons e rest ih =>
    obtain ⟨k, v⟩ := e
    by_cases hk : k = name
    · simp [set, hk, names]
    · have h' : name ∈ names rest := by simpa [names, Ne.symm hk] using h
      have ih := ih h'
      simp only [names] at ih
      simp [set, hk, names, ih]

theorem names_set_of_not_mem {t : Entries α} {name : String} (value : α) (h : name ∉ names t) :
    names (set t name value) = names t ++ [name] := by
  induction t with
  | nil => simp [set, names]
  | cons e rest ih =>
    obtain ⟨k, v⟩ := e
    have h1 : k ≠ name := fun hk => h (by simp [names, hk])
    have h2 : name ∉ names rest := fun hm => h (by simp only [names] at hm ⊢; simp [hm])
    have ih := ih h2
    simp only [names] at ih
    simp [set, h1, names, ih]

theorem names_set_nodup {t : Entries α} (name : String) (value : α) (h : (names t).Nodup) :
    (names (set t name value)).Nodup := by
  by_cases hm : name ∈ names t
  · rwa [names_set_of_mem value hm]
  · rw [names_set_of_not_mem value hm, List.nodup_append]
    refine ⟨h, by simp, ?_⟩
    intro a ha b hb hab
    simp at hb
    exact hm (hb ▸ hab ▸ ha)

end Entries
end Bindery
