import Bindery.Proofs.Attr.Merge
import Bindery.Proofs.Attr.Shape

/-! # Paths in trees

What a tree holds at a path of names. A tree without repeated names is determined by the labels of its paths
(`eq_of_labelAt?`), where the label of a mapping is the list of its names, and merging joins the labels path by path
(`labelAt?_merge`), as long as the trees hold values of one kind wherever both hold a value. -/

namespace Bindery.Attr

/-- The value at a path of names. -/
def Value.at? : Value → List String → Option Value
  | v, [] => some v
  | .map entries, k :: path => (Entries.get? entries k).bind fun v => v.at? path
  | .text _, _ :: _ | .list _, _ :: _ => none

/-- What a tree holds at a path; at the empty path it holds itself. -/
def at? (t : Tree) (path : List String) : Option Value := (Value.map t).at? path

/-- What there is to see of a value without what its names lead to. -/
inductive Label where
  | text (s : String)
  | list (items : List String)
  | map (names : List String)
deriving Repr, DecidableEq

/-- The label of a value. -/
def Value.label : Value → Label
  | text s => .text s
  | list items => .list items
  | map entries => .map (Entries.names entries)

namespace Label

/-- The kind of the values that have a label. -/
def kind : Label → String
  | text _ => "text"
  | list _ => "list"
  | map _ => "mapping"

/-- The label of two values that are merged. -/
def join : Label → Label → Label
  | list a, list b => list (a ++ b)
  | map a, map b => map (a ++ b.filter (· ∉ a))
  | _, l => l

end Label

theorem Value.kind_label (v : Value) : v.label.kind = v.kind := by cases v <;> rfl

/-- The label at a path of a value. -/
def Value.labelAt? (v : Value) (path : List String) : Option Label := (v.at? path).map Value.label

/-- Two values that are of one kind at every path at which both hold a value. -/
def Value.Compatible (v w : Value) : Prop :=
  ∀ path a b, v.at? path = some a → w.at? path = some b → a.kind = b.kind

/-- Two trees that hold values of one kind at every path at which both hold a value. -/
def Compatible (t u : Tree) : Prop := (Value.map t).Compatible (.map u)

variable {t u : Tree} {v w : Value} {k : String}

theorem Value.Compatible.get? (h : (Value.map t).Compatible (.map u)) (hv : Entries.get? t k = some v)
    (hw : Entries.get? u k = some w) : v.Compatible w := fun path a b ha hb =>
  h (k :: path) a b (by rw [at?, hv, Option.bind_some, ha]) (by rw [at?, hw, Option.bind_some, hb])

mutual
/-- Whether two values are of one kind, and what they hold under one name as well. -/
def Value.isCompatible : Value → Value → Bool
  | .text _, .text _ | .list _, .list _ => true
  | .map t, .map u => isCompatible t u
  | _, _ => false
termination_by structural v => v
/-- Whether every entry of a tree agrees with what another one holds under its name, if anything. -/
def isCompatible : List (String × Value) → Tree → Bool
  | [], _ => true
  | (k, v) :: rest, u =>
    (match Entries.get? u k with
      | none => true
      | some w => v.isCompatible w) && isCompatible rest u
termination_by structural es => es
end

theorem isCompatible_of_get? (h : isCompatible t u = true) (hv : Entries.get? t k = some v)
    (hw : Entries.get? u k = some w) : v.isCompatible w = true := by
  induction t with
  | nil => cases hv
  | cons e rest ih =>
    obtain ⟨k', v'⟩ := e
    rw [isCompatible, Bool.and_eq_true] at h
    rw [Entries.get?] at hv
    split at hv
    case isTrue hk =>
      subst hk
      rw [hw] at h
      exact Option.some.inj hv ▸ h.1
    case isFalse hk => exact ih h.2 hv

theorem Value.Compatible.of_isCompatible (h : v.isCompatible w = true) : v.Compatible w := by
  intro path
  induction path generalizing v w with
  | nil =>
    intro a b ha hb
    rw [at?] at ha hb
    rw [← Option.some.inj ha, ← Option.some.inj hb]
    cases v <;> cases w <;> first | rfl | cases h
  | cons k path ih =>
    intro a b ha hb
    cases v with
    | text s => cases ha
    | list items => cases ha
    | map t =>
      cases w with
      | text s => cases hb
      | list items => cases hb
      | map u =>
        rw [at?, Option.bind_eq_some_iff] at ha hb
        obtain ⟨v, hv, ha⟩ := ha
        obtain ⟨w, hw, hb⟩ := hb
        rw [isCompatible] at h
        exact ih (isCompatible_of_get? h hv hw) a b ha hb

/-- Whether trees are compatible can be checked entry by entry. -/
theorem Compatible.of_isCompatible (h : isCompatible t u = true) : Compatible t u :=
  Value.Compatible.of_isCompatible (v := .map t) (w := .map u) (by rwa [Value.isCompatible])

/-! ### Names and values after a merge -/

theorem names_merge (h : (Entries.names u).Nodup) :
    Entries.names (merge t u) = Entries.names t ++ (Entries.names u).filter (· ∉ Entries.names t) := by
  induction u generalizing t with
  | nil => simp [merge, Entries.names]
  | cons e rest ih =>
    obtain ⟨k, v⟩ := e
    rw [Entries.names_cons, List.nodup_cons] at h
    rw [merge, ih h.2, Entries.names_cons]
    by_cases hk : k ∈ Entries.names t
    · rw [Entries.names_set_of_mem _ hk, List.filter_cons_of_neg (by simpa using hk)]
    · rw [Entries.names_set_of_not_mem _ hk, List.filter_cons_of_pos (by simpa using hk), List.append_assoc,
        List.singleton_append]
      have hrest : (Entries.names rest).filter (· ∉ Entries.names t ++ [k]) =
          (Entries.names rest).filter (· ∉ Entries.names t) := by
        refine List.filter_congr fun name hname => ?_
        have hne : name ≠ k := fun heq => h.1 (heq ▸ hname)
        simp [hne]
      rw [hrest]

theorem get?_merge (h : (Entries.names u).Nodup) (k : String) :
    Entries.get? (merge t u) k =
      match Entries.get? u k with
      | some w => some (mergeValue (Entries.get? t k) w)
      | none => Entries.get? t k := by
  induction u generalizing t with
  | nil => rfl
  | cons e rest ih =>
    obtain ⟨k', w⟩ := e
    rw [Entries.names_cons, List.nodup_cons] at h
    rw [merge, Entries.get?]
    by_cases hk : k' = k
    · subst hk
      rw [get?_merge_of_not_mem h.1, Entries.get?_set_self, if_pos rfl]
    · rw [if_neg hk, ih h.2, Entries.get?_set_ne _ hk]

theorem mergeValue_none (w : Value) : mergeValue none w = w := by cases w <;> rfl

theorem Value.nodup_of_isDistinct (h : (Value.map t).isDistinct = true) : (Entries.names t).Nodup :=
  Attr.nodup_of_isDistinct (by rwa [Value.isDistinct] at h)

theorem Value.isDistinct_of_get? (h : (Value.map t).isDistinct = true) (hv : Entries.get? t k = some v) :
    v.isDistinct = true := by
  rw [Value.isDistinct, isDistinct_iff] at h
  exact h.2 _ (Entries.mem_of_get? hv)

theorem Value.labelAt?_cons (t : Tree) (k : String) (path : List String) :
    (Value.map t).labelAt? (k :: path) = (Entries.get? t k).bind fun v => v.labelAt? path := by
  rw [labelAt?, at?, Option.map_bind]
  rfl

/-- Merging joins the labels at a path. -/
theorem Value.labelAt?_mergeValue (hw : w.isDistinct = true) (h : v.Compatible w) (path : List String) :
    (mergeValue (some v) w).labelAt? path = Option.merge Label.join (v.labelAt? path) (w.labelAt? path) := by
  induction path generalizing v w with
  | nil =>
    cases v <;> cases w
    case map.map t u => exact congrArg (fun names => some (Label.map names)) (names_merge (nodup_of_isDistinct hw))
    all_goals rfl
  | cons k path ih =>
    have hkind := h [] v w (by rw [at?]) (by rw [at?])
    cases v <;> cases w
    case map.map t u =>
      have hmerge : mergeValue (some (.map t)) (.map u) = .map (merge t u) := rfl
      rw [hmerge, labelAt?_cons, labelAt?_cons, labelAt?_cons, get?_merge (nodup_of_isDistinct hw)]
      cases hu : Entries.get? u k with
      | none => rw [Option.bind_none, Option.merge_none_right]
      | some w =>
        cases ht : Entries.get? t k with
        | none =>
          simp only [mergeValue_none]
          rw [Option.bind_none, Option.merge_none_left]
        | some v => exact ih (isDistinct_of_get? hw hu) (h.get? ht hu)
    case text.text | list.list => rfl
    all_goals simp [Value.kind] at hkind

/-- The label at a path of a tree. -/
def labelAt? (t : Tree) (path : List String) : Option Label := (Value.map t).labelAt? path

theorem labelAt?_merge (hu : isDistinct u = true) (h : Compatible t u) (path : List String) :
    labelAt? (merge t u) path = Option.merge Label.join (labelAt? t path) (labelAt? u path) :=
  Value.labelAt?_mergeValue (v := .map t) (w := .map u) (by rwa [Value.isDistinct]) h path

/-! ### Distinct names are kept -/

theorem isDistinct_set (ht : isDistinct t = true) (hv : v.isDistinct = true) (k : String) :
    isDistinct (Entries.set t k v) = true := by
  rw [isDistinct_iff] at ht ⊢
  refine ⟨Entries.names_set_nodup k v ht.1, fun e he => ?_⟩
  rcases Entries.mem_set he with he | rfl
  · exact ht.2 e he
  · exact hv

mutual
theorem isDistinct_mergeValue :
    ∀ {v : Value} {old : Option Value}, (∀ o ∈ old, o.isDistinct = true) → v.isDistinct = true →
      (mergeValue old v).isDistinct = true
  | .text _, _, _, h => h
  | .list new, old, _, _ => by
    rcases old with _ | _ | _ | _ <;> rfl
  | .map new, old, hold, h => by
    rcases old with _ | _ | _ | entries
    case some.map =>
      have hentries := hold (.map entries) rfl
      rw [Value.isDistinct] at hentries h
      exact isDistinct_merge hentries h
    all_goals exact h
theorem isDistinct_merge :
    ∀ {u t : List (String × Value)}, isDistinct t = true → isDistinct u = true → isDistinct (merge t u) = true
  | [], _, ht, _ => ht
  | (k, v) :: rest, t, ht, hu => by
    obtain ⟨-, hv, hrest⟩ := isDistinct_cons.mp hu
    rw [merge]
    refine isDistinct_merge (isDistinct_set ht (isDistinct_mergeValue (fun o ho => ?_) hv) k) hrest
    exact (isDistinct_iff.mp ht).2 _ (Entries.mem_of_get? ho)
end

/-! ### Labels determine a tree -/

/-- Values without repeated names that have the same labels are the same. -/
theorem Value.eq_of_labelAt? {v w : Value} (hv : v.isDistinct = true) (hw : w.isDistinct = true)
    (h : ∀ path, v.labelAt? path = w.labelAt? path) : v = w := by
  have hlabel : v.label = w.label := Option.some.inj (h [])
  match v, w with
  | .text s, .text s' => rw [Label.text.inj hlabel]
  | .list items, .list items' => rw [Label.list.inj hlabel]
  | .map t, .map u =>
    -- The labels here give the names; what stands under a name is smaller and has the same labels in its turn.
    congr 1
    refine Entries.eq_of_get? (nodup_of_isDistinct hv) (Label.map.inj hlabel) fun k => ?_
    have hk : ∀ path, ((Entries.get? t k).bind fun v => v.labelAt? path) =
        (Entries.get? u k).bind fun v => v.labelAt? path := by
      intro path
      rw [← labelAt?_cons, ← labelAt?_cons]
      exact h (k :: path)
    cases ht : Entries.get? t k with
    | none =>
      rw [Entries.get?_eq_none_iff] at ht
      rw [eq_comm, Entries.get?_eq_none_iff]
      rwa [← Label.map.inj hlabel]
    | some a =>
      cases hu : Entries.get? u k with
      | none =>
        rw [ht, hu] at hk
        cases hk []
      | some b =>
        rw [ht, hu] at hk
        have hsize := List.sizeOf_lt_of_mem (Entries.mem_of_get? ht)
        rw [eq_of_labelAt? (isDistinct_of_get? hv ht) (isDistinct_of_get? hw hu) hk]
termination_by sizeOf v
decreasing_by
  simp only [Prod.mk.sizeOf_spec, Value.map.sizeOf_spec] at hsize ⊢
  omega

theorem eq_of_labelAt? (ht : isDistinct t = true) (hu : isDistinct u = true)
    (h : ∀ path, labelAt? t path = labelAt? u path) : t = u :=
  Value.map.inj (Value.eq_of_labelAt? (by rwa [Value.isDistinct]) (by rwa [Value.isDistinct]) h)

end Bindery.Attr
