import Bindery.Entries
import Mathlib.Data.List.Forall2

/-! # Setting many names

What becomes of entries when names are set: every entry was there or has been set. Where the names are new,
the new entries come at the end, in the order in which they are set. -/

namespace Bindery

theorem nodup_eraseDups {α : Type} [BEq α] [LawfulBEq α] (xs : List α) : xs.eraseDups.Nodup := by
  match xs with
  | [] => simp
  | x :: xs =>
    rw [List.eraseDups_cons, List.nodup_cons, List.mem_eraseDups]
    exact ⟨by simp, nodup_eraseDups _⟩
termination_by xs.length
decreasing_by exact Nat.lt_succ_of_le (List.length_filter_le _ _)

theorem eraseDups_of_nodup {α : Type} [BEq α] [LawfulBEq α] {xs : List α} (h : xs.Nodup) : xs.eraseDups = xs := by
  induction xs with
  | nil => rfl
  | cons x xs ih =>
    rw [List.nodup_cons] at h
    have hfilter : xs.filter (fun y => !y == x) = xs := by
      rw [List.filter_eq_self]
      intro y hy
      simpa using ne_of_mem_of_not_mem hy h.1
    rw [List.eraseDups_cons, hfilter, ih h.2]

theorem eraseDups_eq_self_iff {α : Type} [BEq α] [LawfulBEq α] {xs : List α} : xs.eraseDups = xs ↔ xs.Nodup :=
  ⟨fun h => h ▸ nodup_eraseDups xs, eraseDups_of_nodup⟩

theorem eraseDups_sublist {α : Type} [BEq α] [LawfulBEq α] (xs : List α) : xs.eraseDups.Sublist xs := by
  match xs with
  | [] => simp
  | x :: xs =>
    rw [List.eraseDups_cons]
    exact ((eraseDups_sublist _).trans List.filter_sublist).cons_cons x
termination_by xs.length
decreasing_by exact Nat.lt_succ_of_le (List.length_filter_le _ _)

theorem eraseDups_append_cons_of_mem {α : Type} [BEq α] [LawfulBEq α] {x : α} {xs : List α} (h : x ∈ xs)
    (ys : List α) : (xs ++ x :: ys).eraseDups = (xs ++ ys).eraseDups := by
  rw [List.eraseDups_append, List.eraseDups_append, List.cons_removeAll, if_neg (by simpa using h)]

namespace Entries
variable {α : Type} {t more : Entries α}

theorem names_cons (name : String) (value : α) (t : Entries α) : names ((name, value) :: t) = name :: names t := rfl

theorem set_of_not_mem {name : String} (value : α) (h : name ∉ names t) : set t name value = t ++ [(name, value)] := by
  induction t with
  | nil => rfl
  | cons e rest ih =>
    obtain ⟨k, v⟩ := e
    rw [names, List.map_cons, List.mem_cons, not_or] at h
    rw [set, if_neg (Ne.symm h.1), ih h.2, List.cons_append]

theorem mem_of_get? {name : String} {value : α} (h : get? t name = some value) : (name, value) ∈ t := by
  induction t with
  | nil => cases h
  | cons e rest ih =>
    obtain ⟨k, v⟩ := e
    rw [get?] at h
    split at h
    · rename_i hk
      cases h
      exact hk ▸ List.mem_cons_self
    · exact List.mem_cons_of_mem _ (ih h)

/-- Where names are distinct every entry is the one that its name leads to. -/
theorem get?_of_mem {name : String} {value : α} (hnodup : (names t).Nodup) (h : (name, value) ∈ t) :
    get? t name = some value := by
  induction t with
  | nil => cases h
  | cons e rest ih =>
    obtain ⟨k, v⟩ := e
    rw [names_cons, List.nodup_cons] at hnodup
    rw [get?]
    rcases List.mem_cons.mp h with heq | h
    · cases heq
      exact if_pos rfl
    · have hne : k ≠ name := fun heq => hnodup.1 (heq ▸ List.mem_map_of_mem (f := Prod.fst) h)
      rw [if_neg hne, ih hnodup.2 h]

theorem mem_values_of_get? {name : String} {value : α} (h : get? t name = some value) : value ∈ values t :=
  List.mem_map_of_mem (mem_of_get? h)

/-- Entries with the same distinct names and the same values are the same. -/
theorem eq_of_get? {u : Entries α} (hnodup : (names t).Nodup) (hnames : names t = names u)
    (h : ∀ name, get? t name = get? u name) : t = u := by
  induction t generalizing u with
  | nil => exact (List.map_eq_nil_iff.mp hnames.symm).symm
  | cons e rest ih =>
    obtain ⟨k, v⟩ := e
    cases u with
    | nil => cases hnames
    | cons e' rest' =>
      obtain ⟨k', v'⟩ := e'
      rw [names_cons, names_cons, List.cons.injEq] at hnames
      obtain ⟨rfl, hrest⟩ := hnames
      rw [names_cons, List.nodup_cons] at hnodup
      have hv := h k
      rw [get?, get?, if_pos rfl, if_pos rfl, Option.some.injEq] at hv
      have hsame : ∀ name, get? rest name = get? rest' name := by
        intro name
        by_cases hname : k = name
        · subst hname
          rw [get?_eq_none_iff.mpr hnodup.1, get?_eq_none_iff.mpr (hrest ▸ hnodup.1)]
        · have hget := h name
          rwa [get?, get?, if_neg hname, if_neg hname] at hget
      rw [hv, ih hnodup.2 hrest hsame]

theorem mem_set {name : String} {value : α} {e : String × α} (h : e ∈ set t name value) :
    e ∈ t ∨ e = (name, value) := by
  induction t with
  | nil => exact Or.inr (List.mem_singleton.mp h)
  | cons e' rest ih =>
    obtain ⟨k, v⟩ := e'
    rw [set] at h
    split at h
    · rename_i hk
      rcases List.mem_cons.mp h with rfl | h
      · exact Or.inr (by rw [hk])
      · exact Or.inl (List.mem_cons_of_mem _ h)
    · rcases List.mem_cons.mp h with rfl | h
      · exact Or.inl (List.mem_cons_self ..)
      · exact (ih h).imp_left (List.mem_cons_of_mem _)

theorem mem_names_set {name other : String} {value : α} :
    other ∈ names (set t name value) ↔ other = name ∨ other ∈ names t := by
  rw [← has_iff, ← has_iff, has, has, get?_set]
  split
  · rename_i heq
    simp [heq]
  · rename_i hne
    simp [Ne.symm hne]

theorem get?_append {name : String} : get? (t ++ more) name = (get? t name).or (get? more name) := by
  induction t with
  | nil => rfl
  | cons e rest ih =>
    obtain ⟨k, v⟩ := e
    by_cases hk : k = name
    · simp [get?, hk]
    · simp [get?, hk, ih]

theorem mem_setAll {e : String × α} (h : e ∈ setAll t more) : e ∈ t ∨ e ∈ more := by
  induction more generalizing t with
  | nil => exact Or.inl h
  | cons e' more ih =>
    rcases ih h with h | h
    · rcases mem_set h with h | rfl
      · exact Or.inl h
      · exact Or.inr (List.mem_cons_self ..)
    · exact Or.inr (List.mem_cons_of_mem _ h)

/-- Distinct names that are all new put their entries at the end. -/
theorem setAll_of_new (hmore : (names more).Nodup) (hnew : ∀ name ∈ names more, name ∉ names t) :
    setAll t more = t ++ more := by
  induction more generalizing t with
  | nil => rw [List.append_nil]; rfl
  | cons e more ih =>
    obtain ⟨name, value⟩ := e
    rw [names, List.map_cons, List.nodup_cons] at hmore
    rw [names, List.map_cons, List.forall_mem_cons] at hnew
    have hrest : ∀ other ∈ names more, other ∉ names (t ++ [(name, value)]) := by
      intro other hother hmem
      rw [names, List.map_append, List.mem_append, List.map_singleton, List.mem_singleton] at hmem
      rcases hmem with hmem | rfl
      · exact hnew.2 other hother hmem
      · exact hmore.1 hother
    have happend : t ++ (name, value) :: more = (t ++ [(name, value)]) ++ more := by simp
    rw [happend, ← ih hmore.2 hrest, ← set_of_not_mem value hnew.1]
    rfl

theorem setAll_cons (t : Entries α) (name : String) (value : α) (more : Entries α) :
    setAll t ((name, value) :: more) = setAll (set t name value) more := rfl

/-- A name that is set again keeps its place. -/
theorem names_setAll (h : (names t).Nodup) : names (setAll t more) = (names t ++ names more).eraseDups := by
  induction more generalizing t with
  | nil =>
    have hnil : names t ++ names ([] : Entries α) = names t := List.append_nil _
    rw [hnil, eraseDups_of_nodup h]
    rfl
  | cons e rest ih =>
    obtain ⟨k, v⟩ := e
    rw [setAll_cons, ih (names_set_nodup k v h), names_cons]
    by_cases hk : k ∈ names t
    · rw [names_set_of_mem v hk, eraseDups_append_cons_of_mem hk]
    · rw [names_set_of_not_mem v hk, List.append_assoc, List.singleton_append]

/-- A name that is set again has the value that it was given last. -/
theorem get?_setAll {name : String} : get? (setAll t more) name = (get? more.reverse name).or (get? t name) := by
  induction more generalizing t with
  | nil => rfl
  | cons e rest ih =>
    obtain ⟨k, v⟩ := e
    rw [setAll_cons, ih, List.reverse_cons, get?_append, Option.or_assoc, get?_set, get?, get?]
    split <;> rfl

theorem names_ofList (more : Entries α) : names (ofList more) = (names more).eraseDups :=
  names_setAll (t := []) List.nodup_nil

theorem get?_ofList (more : Entries α) (name : String) : get? (ofList more) name = get? more.reverse name := by
  rw [ofList, get?_setAll, get?, Option.or_none]

theorem ofList_of_nodup (h : (names more).Nodup) : ofList more = more := by
  rw [ofList, setAll_of_new h fun _ _ => List.not_mem_nil, List.nil_append]

/-- With distinct names, a change of a name is a change of the one entry that has it. -/
theorem modify_eq_map {f : α → α} (hnodup : (names t).Nodup) (name : String) :
    modify t name f = t.map fun e => if e.1 = name then (e.1, f e.2) else e := by
  induction t with
  | nil => rfl
  | cons e rest ih =>
    obtain ⟨k, v⟩ := e
    rw [names, List.map_cons, List.nodup_cons] at hnodup
    by_cases hk : k = name
    · subst hk
      have hrest : rest.map (fun e => if e.1 = k then (e.1, f e.2) else e) = rest := by
        refine (List.map_congr_left fun e he => ?_).trans (List.map_id rest)
        have hne : e.1 ≠ k := fun heq => hnodup.1 (List.mem_map.mpr ⟨e, he, heq⟩)
        rw [if_neg hne, id]
      simp [modify, get?, set, hrest]
    · have ih := ih hnodup.2
      unfold modify at ih ⊢
      rw [List.map_cons, ← ih]
      simp only [get?, hk, if_false]
      split <;> simp [set, hk]

/-! ### Entries with some of the names -/

theorem get?_filter {p : String → Bool} {name : String} (h : p name = true) :
    get? (t.filter fun e => p e.1) name = get? t name := by
  induction t with
  | nil => rfl
  | cons e rest ih =>
    obtain ⟨k, v⟩ := e
    by_cases hk : k = name
    · subst hk
      simp [h, get?]
    · by_cases hp : p k <;> simp [hp, get?, hk, ih]

theorem filter_set_of_pos {p : String → Bool} {name : String} (value : α) (h : p name = true) :
    (set t name value).filter (fun e => p e.1) = set (t.filter fun e => p e.1) name value := by
  induction t with
  | nil => simp [set, h]
  | cons e rest ih =>
    obtain ⟨k, v⟩ := e
    by_cases hk : k = name
    · subst hk
      simp [set, h]
    · by_cases hp : p k <;> simp [hp, set, hk, ih]

theorem filter_set_of_neg {p : String → Bool} {name : String} (value : α) (h : p name = false) :
    (set t name value).filter (fun e => p e.1) = t.filter fun e => p e.1 := by
  induction t with
  | nil => simp [set, h]
  | cons e rest ih =>
    obtain ⟨k, v⟩ := e
    by_cases hk : k = name
    · subst hk
      simp [set, h]
    · by_cases hp : p k <;> simp [hp, set, hk, ih]

/-! ### What a view of the values sees -/

/-- Entries under the same names, of which each value of the one becomes that of the other. -/
theorem map_get?_of_forall₂ {ε β : Type} {f : α → Except ε β} {u : Entries β}
    (h : List.Forall₂ (fun e d => e.1 = d.1 ∧ f e.2 = .ok d.2) t u) (name : String) :
    (get? t name).map f = (get? u name).map .ok := by
  induction h with
  | nil => rfl
  | @cons e d _ _ hed _ ih =>
    obtain ⟨k, v⟩ := e
    obtain ⟨l, w⟩ := d
    obtain ⟨rfl, hv⟩ := hed
    rw [get?, get?]
    split
    · exact congrArg some hv
    · exact ih

theorem map_set {β : Type} {g : α → β} {name : String} {value a : α} (hget : get? t name = some a)
    (hg : g value = g a) : (set t name value).map (fun e => (e.1, g e.2)) = t.map fun e => (e.1, g e.2) := by
  induction t with
  | nil => cases hget
  | cons e rest ih =>
    obtain ⟨k, v⟩ := e
    rw [get?] at hget
    rw [set]
    split at hget
    · cases hget
      rw [if_pos ‹_›]
      simp [hg]
    · rw [if_neg ‹_›]
      simp [ih hget]

/-- A change that a view does not see. -/
theorem map_modify {β : Type} {g : α → β} {f : α → α} (hg : ∀ a, g (f a) = g a) (t : Entries α) (name : String) :
    (modify t name f).map (fun e => (e.1, g e.2)) = t.map fun e => (e.1, g e.2) := by
  unfold modify
  split
  · rename_i a ha
    exact map_set ha (hg a)
  · rfl

end Entries
end Bindery
