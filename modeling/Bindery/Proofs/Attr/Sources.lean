import Bindery.Proofs.Attr.Paths
import Mathlib.Data.List.Induction
import Mathlib.Data.List.Pairwise
import Mathlib.Tactic.Choose

/-! # Trees merged from several sources

What a tree holds that several trees are merged into one after the other, if any two of them hold values of one kind
wherever both hold a value: at every path the last text, all lists joined, or a mapping whose names stand in the order
in which they are mentioned first (`merged_foldl`). How the trees are grouped makes no difference. -/

namespace Bindery.Attr

/-- The values that trees hold at a path, in the order of the trees. -/
def defined (ts : List Tree) (path : List String) : List Value := ts.filterMap (at? · path)

/-- What trees come to that are merged one after the other. -/
structure Merged (ts : List Tree) (t : Tree) : Prop where
  /-- A path holds a value of a kind iff it does in some tree. -/
  kind_iff : ∀ path kind, (∃ v, at? t path = some v ∧ v.kind = kind) ↔ ∃ v ∈ defined ts path, v.kind = kind
  /-- A text is the one of the last tree that holds a value there. -/
  text : ∀ path s, at? t path = some (.text s) → (defined ts path).getLast? = some (.text s)
  /-- A list is the lists of the trees, one after the other. -/
  list : ∀ path items, at? t path = some (.list items) → items = ((defined ts path).filterMap Value.list?).flatten
  /-- The names of a mapping, the tree itself included, stand in the order in which the trees mention them first. -/
  names : ∀ path entries, at? t path = some (.map entries) →
    Entries.names entries = (((defined ts path).filterMap Value.map?).flatMap Entries.names).eraseDups

/-! ### Labels of one kind -/

namespace Label

theorem kind_join (l m : Label) : (l.join m).kind = m.kind := by cases l <;> cases m <;> rfl

theorem join_assoc {l m n : Label} (hlm : l.kind = m.kind) (hmn : m.kind = n.kind) :
    (l.join m).join n = l.join (m.join n) := by
  cases l <;> cases m <;> cases n
  case text.text.text => rfl
  case list.list.list a b c => simp [join]
  case map.map.map a b c =>
    have hrest : c.filter (· ∉ a ++ b.filter (· ∉ a)) = (c.filter (· ∉ b)).filter (· ∉ a) := by
      rw [List.filter_filter]
      refine List.filter_congr fun name _ => ?_
      by_cases ha : name ∈ a <;> simp [ha]
    rw [join, join, join, join, hrest, List.filter_append, List.append_assoc]
  all_goals simp [kind] at hlm hmn

/-- The label of what values of one kind come to that are merged one after the other. -/
def ofAll (vs : List Value) : Option Label :=
  match vs.getLast? with
  | none => none
  | some (.text s) => some (.text s)
  | some (.list _) => some (.list (vs.filterMap Value.list?).flatten)
  | some (.map _) => some (.map ((vs.filterMap Value.map?).flatMap Entries.names).eraseDups)

theorem ofAll_map (vs : List Value) (entries : List (String × Value)) :
    ofAll (vs ++ [Value.map entries]) =
      some (.map (((vs ++ [Value.map entries]).filterMap Value.map?).flatMap Entries.names).eraseDups) := by
  rw [ofAll, List.getLast?_concat]

theorem map_kind_ofAll (vs : List Value) : (ofAll vs).map kind = vs.getLast?.map Value.kind := by
  rw [ofAll]
  cases vs.getLast? with
  | none => rfl
  | some v => cases v <;> rfl

theorem getLast?_of_ofAll_eq_text {vs : List Value} {s : String} (h : ofAll vs = some (.text s)) :
    vs.getLast? = some (.text s) := by
  rw [ofAll] at h
  split at h <;> cases h
  assumption

theorem eq_of_ofAll_eq_list {vs : List Value} {items : List String} (h : ofAll vs = some (.list items)) :
    items = (vs.filterMap Value.list?).flatten := by
  rw [ofAll] at h
  split at h <;> cases h
  rfl

theorem eq_of_ofAll_eq_map {vs : List Value} {names : List String} (h : ofAll vs = some (.map names)) :
    names = ((vs.filterMap Value.map?).flatMap Entries.names).eraseDups := by
  rw [ofAll] at h
  split at h <;> cases h
  rfl

/-- Names that are new come at the end. -/
theorem eraseDups_append_of_nodup (before : List String) {names : List String} (h : names.Nodup) :
    (before ++ names).eraseDups = before.eraseDups ++ names.filter (· ∉ before.eraseDups) := by
  have hnew : names.removeAll before = names.filter (· ∉ before.eraseDups) := by
    refine List.filter_congr fun name _ => ?_
    simp
  rw [List.eraseDups_append, hnew, eraseDups_of_nodup (h.filter _)]

theorem ofAll_singleton {w : Value} (hdistinct : w.isDistinct = true) : ofAll [w] = some w.label := by
  cases w
  case map entries =>
    simp [ofAll, Value.map?, Value.label, eraseDups_of_nodup (Value.nodup_of_isDistinct hdistinct)]
  all_goals simp [ofAll, Value.list?, Value.label]

/-- A further value is merged into what the values before it come to. -/
theorem ofAll_concat {κ : String} {vs : List Value} {w : Value} (hvs : ∀ v ∈ vs, v.kind = κ) (hw : w.kind = κ)
    (hdistinct : w.isDistinct = true) : ofAll (vs ++ [w]) = Option.merge join (ofAll vs) (some w.label) := by
  rcases List.eq_nil_or_concat vs with rfl | ⟨front, v, rfl⟩
  · exact ofAll_singleton hdistinct
  · rw [List.concat_eq_append] at hvs ⊢
    have hkind : v.kind = w.kind := (hvs v (by simp)).trans hw.symm
    cases v <;> cases w
    case text.text => simp [ofAll, Value.label, join]
    case list.list => simp [ofAll, Value.label, Value.list?, join]
    case map.map a b =>
      have hnew : ([Value.map b].filterMap Value.map?).flatMap Entries.names = Entries.names b := by simp [Value.map?]
      rw [ofAll_map, ofAll_map, List.filterMap_append, List.flatMap_append, hnew,
        eraseDups_append_of_nodup _ (Value.nodup_of_isDistinct hdistinct)]
      rfl
    all_goals simp [Value.kind] at hkind

end Label

/-! ### Trees of one kind at every path -/

/-- A tree without repeated names whose values are of the given kind at every path. -/
structure OfKinds (κ : List String → String) (t : Tree) : Prop where
  distinct : isDistinct t = true
  kind : ∀ path v, at? t path = some v → v.kind = κ path

variable {κ : List String → String} {t u x : Tree} {ts : List Tree}

theorem labelAt?_eq (t : Tree) (path : List String) : labelAt? t path = (at? t path).map Value.label := rfl

theorem OfKinds.labelAt? (h : OfKinds κ t) {path : List String} {l : Label} (hl : labelAt? t path = some l) :
    l.kind = κ path := by
  obtain ⟨v, hv, rfl⟩ := Option.map_eq_some_iff.mp hl
  rw [Value.kind_label, h.kind path v hv]

theorem OfKinds.compatible (ht : OfKinds κ t) (hu : OfKinds κ u) : Compatible t u := fun path a b ha hb =>
  (ht.kind path a ha).trans (hu.kind path b hb).symm

theorem OfKinds.labelAt?_merge (ht : OfKinds κ t) (hu : OfKinds κ u) (path : List String) :
    Attr.labelAt? (merge t u) path = Option.merge Label.join (Attr.labelAt? t path) (Attr.labelAt? u path) :=
  Attr.labelAt?_merge hu.distinct (ht.compatible hu) path

theorem OfKinds.merge (ht : OfKinds κ t) (hu : OfKinds κ u) : OfKinds κ (merge t u) where
  distinct := isDistinct_merge ht.distinct hu.distinct
  kind path v hv := by
    have hlabel := ht.labelAt?_merge hu path
    rw [labelAt?_eq, hv, Option.map_some] at hlabel
    rw [← Value.kind_label]
    cases hl : Attr.labelAt? t path with
    | none =>
      rw [hl, Option.merge_none_left] at hlabel
      exact hu.labelAt? hlabel.symm
    | some l =>
      cases hm : Attr.labelAt? u path with
      | none =>
        rw [hl, hm, Option.merge_none_right] at hlabel
        rw [Option.some.inj hlabel, ht.labelAt? hl]
      | some m =>
        rw [hl, hm, Option.merge_some_some] at hlabel
        rw [Option.some.inj hlabel, Label.kind_join, hu.labelAt? hm]

theorem merge_assoc (ht : OfKinds κ t) (hu : OfKinds κ u) (hx : OfKinds κ x) :
    merge (merge t u) x = merge t (merge u x) := by
  have htu := ht.merge hu
  have hux := hu.merge hx
  -- A path that one of the trees does not hold needs no law of labels: merging leaves the other label alone.
  refine eq_of_labelAt? (htu.merge hx).distinct (ht.merge hux).distinct fun path => ?_
  rw [htu.labelAt?_merge hx, ht.labelAt?_merge hu, ht.labelAt?_merge hux, hu.labelAt?_merge hx]
  cases hl : labelAt? t path with
  | none => rw [Option.merge_none_left, Option.merge_none_left]
  | some l =>
    cases hm : labelAt? u path with
    | none => rw [Option.merge_none_right, Option.merge_none_left]
    | some m =>
      cases hn : labelAt? x path with
      | none => rw [Option.merge_none_right, Option.merge_none_right]
      | some n =>
        have hlm : l.kind = m.kind := (ht.labelAt? hl).trans (hu.labelAt? hm).symm
        have hmn : m.kind = n.kind := (hu.labelAt? hm).trans (hx.labelAt? hn).symm
        exact congrArg some (Label.join_assoc hlm hmn)

theorem OfKinds.foldl (ht : OfKinds κ t) (hts : ∀ u ∈ ts, OfKinds κ u) : OfKinds κ (ts.foldl Attr.merge t) := by
  induction ts generalizing t with
  | nil => exact ht
  | cons u ts ih =>
    rw [List.forall_mem_cons] at hts
    exact ih (ht.merge hts.1) hts.2

/-- What is merged into a tree may be merged beforehand. -/
theorem merge_foldl (ht : OfKinds κ t) (hu : OfKinds κ u) (hts : ∀ x ∈ ts, OfKinds κ x) :
    merge t (ts.foldl merge u) = ts.foldl merge (merge t u) := by
  induction ts generalizing u with
  | nil => rfl
  | cons x ts ih =>
    rw [List.forall_mem_cons] at hts
    rw [List.foldl_cons, List.foldl_cons, ih (hu.merge hts.1) hts.2, merge_assoc ht hu hts.1]

/-- Trees of which any two are compatible have one kind of value at every path. -/
theorem exists_ofKinds (hdistinct : ∀ t ∈ ts, isDistinct t = true) (h : ts.Pairwise Compatible) :
    ∃ κ, ∀ t ∈ ts, OfKinds κ t := by
  have hself : ∀ t ∈ ts, Compatible t t := fun t _ path a b ha hb => by rw [Option.some.inj (ha.symm.trans hb)]
  have hflip : ∀ t u : Tree, Compatible t u → Compatible u t := fun t u hc path a b ha hb => (hc path b a hb ha).symm
  have hall : ∀ t ∈ ts, ∀ u ∈ ts, Compatible t u := by
    have : Std.Symm Compatible := ⟨hflip⟩
    exact h.forall_of_forall hself
  have hkinds : ∀ path, ∃ kind, ∀ t ∈ ts, ∀ v, at? t path = some v → v.kind = kind := by
    intro path
    by_cases hsome : ∃ t ∈ ts, ∃ v, at? t path = some v
    · obtain ⟨t, ht, v, hv⟩ := hsome
      exact ⟨v.kind, fun u hu w hw => hall u hu t ht path w v hw hv⟩
    · exact ⟨"", fun t ht v hv => absurd ⟨t, ht, v, hv⟩ hsome⟩
  choose κ hκ using hkinds
  exact ⟨κ, fun t ht => ⟨hdistinct t ht, fun path v hv => hκ path t ht v hv⟩⟩

/-! ### What the trees come to -/

theorem defined_concat (ts : List Tree) (u : Tree) (path : List String) :
    defined (ts ++ [u]) path = defined ts path ++ (at? u path).toList := by
  rw [defined, List.filterMap_append, defined]
  cases hu : at? u path <;> simp [hu]

theorem kind_of_mem_defined (h : ∀ t ∈ ts, OfKinds κ t) {path : List String} :
    ∀ v ∈ defined ts path, v.kind = κ path := by
  intro v hv
  obtain ⟨t, ht, hat⟩ := List.mem_filterMap.mp hv
  exact (h t ht).kind path v hat

theorem Value.isDistinct_of_at? {v w : Value} {path : List String} (hv : v.isDistinct = true)
    (hw : v.at? path = some w) : w.isDistinct = true := by
  induction path generalizing v with
  | nil =>
    rw [Value.at?] at hw
    exact Option.some.inj hw ▸ hv
  | cons k path ih =>
    cases v with
    | text s => cases hw
    | list items => cases hw
    | map entries =>
      obtain ⟨v, hget, hw⟩ := Option.bind_eq_some_iff.mp hw
      exact ih (isDistinct_of_get? hv hget) hw

theorem OfKinds.isDistinct_of_at? (h : OfKinds κ t) {path : List String} {v : Value} (hv : at? t path = some v) :
    v.isDistinct = true := by
  refine Value.isDistinct_of_at? ?_ hv
  rw [Value.isDistinct]
  exact h.distinct

/-- One more tree joins its label to what the trees before it come to. -/
theorem labelAt?_concat {before : List Tree} (hbefore : ∀ x ∈ before, OfKinds κ x) (ht : OfKinds κ t) (hu : OfKinds κ u)
    {path : List String} (h : labelAt? t path = Label.ofAll (defined before path)) :
    labelAt? (merge t u) path = Label.ofAll (defined (before ++ [u]) path) := by
  rw [ht.labelAt?_merge hu, h, defined_concat, labelAt?_eq]
  cases hw : at? u path with
  | none => rw [Option.map_none, Option.merge_none_right, Option.toList_none, List.append_nil]
  | some w =>
    exact (Label.ofAll_concat (kind_of_mem_defined hbefore) (hu.kind path w hw) (hu.isDistinct_of_at? hw)).symm

/-- The trees' labels, path by path, say what the trees come to. -/
theorem merged_of_labelAt? (hkind : ∀ path, ∀ v ∈ defined ts path, v.kind = κ path)
    (h : ∀ path, labelAt? t path = Label.ofAll (defined ts path)) : Merged ts t where
  kind_iff path kind := by
    have hlast : (at? t path).map Value.kind = (defined ts path).getLast?.map Value.kind := by
      rw [← Label.map_kind_ofAll, ← h, labelAt?_eq, Option.map_map]
      exact congrArg (Option.map · (at? t path)) (funext fun v => v.kind_label.symm)
    constructor
    · rintro ⟨v, hv, rfl⟩
      rw [hv, Option.map_some, eq_comm, Option.map_eq_some_iff] at hlast
      obtain ⟨w, hw, hkind⟩ := hlast
      exact ⟨w, List.mem_of_getLast? hw, hkind⟩
    · rintro ⟨v, hv, rfl⟩
      obtain ⟨w, hw⟩ : ∃ w, (defined ts path).getLast? = some w :=
        ⟨_, List.getLast?_eq_some_getLast (List.ne_nil_of_mem hv)⟩
      rw [hw, Option.map_some, Option.map_eq_some_iff] at hlast
      obtain ⟨a, ha, hkindA⟩ := hlast
      exact ⟨a, ha, hkindA.trans ((hkind path w (List.mem_of_getLast? hw)).trans (hkind path v hv).symm)⟩
  text path s hs := Label.getLast?_of_ofAll_eq_text (by rw [← h, labelAt?_eq, hs]; rfl)
  list path items hitems := Label.eq_of_ofAll_eq_list (by rw [← h, labelAt?_eq, hitems]; rfl)
  names path entries hentries := Label.eq_of_ofAll_eq_map (by rw [← h, labelAt?_eq, hentries]; rfl)

theorem Merged.labelAt? (hkind : ∀ path, ∀ v ∈ defined ts path, v.kind = κ path) (h : Merged ts t)
    (path : List String) : Attr.labelAt? t path = Label.ofAll (defined ts path) := by
  rw [labelAt?_eq]
  cases hv : at? t path with
  | none =>
    have hnone : defined ts path = [] := List.eq_nil_iff_forall_not_mem.mpr fun v hmem => by
      obtain ⟨w, hw, -⟩ := (h.kind_iff path v.kind).mpr ⟨v, hmem, rfl⟩
      rw [hv] at hw
      cases hw
    rw [hnone]
    rfl
  | some v =>
    obtain ⟨w, hw, hkindW⟩ := (h.kind_iff path v.kind).mp ⟨v, hv, rfl⟩
    obtain ⟨last, hlast⟩ : ∃ last, (defined ts path).getLast? = some last :=
      ⟨_, List.getLast?_eq_some_getLast (List.ne_nil_of_mem hw)⟩
    have hkindLast : last.kind = v.kind :=
      (hkind path last (List.mem_of_getLast? hlast)).trans ((hkind path w hw).symm.trans hkindW)
    rw [Label.ofAll, hlast]
    cases v <;> cases last
    case text.text s s' =>
      have htext := h.text path s hv
      rw [hlast] at htext
      rw [Value.text.inj (Option.some.inj htext)]
      rfl
    case list.list items items' => exact congrArg (fun items => some (Label.list items)) (h.list path items hv)
    case map.map entries entries' => exact congrArg (fun names => some (Label.map names)) (h.names path entries hv)
    all_goals simp [Value.kind] at hkindLast

/-- The trees leave no choice. -/
theorem Merged.unique (hts : ∀ x ∈ ts, OfKinds κ x) (ht : isDistinct t = true) (hu : isDistinct u = true)
    (h : Merged ts t) (h' : Merged ts u) : t = u :=
  eq_of_labelAt? ht hu fun path =>
    (h.labelAt? (fun _ => kind_of_mem_defined hts) path).trans
      (h'.labelAt? (fun _ => kind_of_mem_defined hts) path).symm

theorem labelAt?_foldl (h : ∀ x ∈ t :: ts, OfKinds κ x) (path : List String) :
    labelAt? (ts.foldl merge t) path = Label.ofAll (defined (t :: ts) path) := by
  -- From the end, so that the trees merged so far are the target of the last step.
  induction ts using List.reverseRecOn with
  | nil =>
    have hone : defined [t] path = (at? t path).toList := defined_concat [] t path
    rw [List.foldl_nil, hone, labelAt?_eq]
    cases hv : at? t path with
    | none => rfl
    | some v => exact (Label.ofAll_singleton ((h t List.mem_cons_self).isDistinct_of_at? hv)).symm
  | append_singleton ts u ih =>
    have hbefore : ∀ x ∈ t :: ts, OfKinds κ x := fun x hx => h x (List.mem_append_left [u] hx)
    have hfold : OfKinds κ (ts.foldl merge t) :=
      (hbefore t List.mem_cons_self).foldl fun x hx => hbefore x (List.mem_cons_of_mem t hx)
    rw [List.foldl_append]
    exact labelAt?_concat hbefore hfold (h u (by simp)) (ih hbefore)

/-- Trees that hold values of one kind wherever any two of them hold a value are merged, one after the other, into the
tree they come to path by path, and it makes no difference which of them are merged first. -/
theorem merged_foldl {target : Tree} {sources : List Tree} (hdistinct : ∀ t ∈ target :: sources, isDistinct t = true)
    (hcompatible : (target :: sources).Pairwise Compatible) :
    Merged (target :: sources) (sources.foldl merge target) ∧
      (∀ t, isDistinct t = true → Merged (target :: sources) t → t = sources.foldl merge target) ∧
      (∀ a ∈ target :: sources, ∀ b ∈ target :: sources, ∀ c ∈ target :: sources,
        merge (merge a b) c = merge a (merge b c)) ∧
      ∀ before u after, sources = before ++ u :: after →
        merge (before.foldl merge target) (after.foldl merge u) = sources.foldl merge target := by
  obtain ⟨κ, h⟩ := exists_ofKinds hdistinct hcompatible
  have hmerged : Merged (target :: sources) (sources.foldl merge target) :=
    merged_of_labelAt? (fun path => kind_of_mem_defined h) (labelAt?_foldl h)
  obtain ⟨htarget, hsources⟩ := List.forall_mem_cons.mp h
  refine ⟨hmerged, fun t ht hother => hother.unique h ht (htarget.foldl hsources).distinct hmerged,
    fun a ha b hb c hc => merge_assoc (h a ha) (h b hb) (h c hc), ?_⟩
  rintro before u after rfl
  rw [List.forall_mem_append, List.forall_mem_cons] at hsources
  obtain ⟨hbefore, hu, hafter⟩ := hsources
  rw [List.foldl_append, List.foldl_cons, merge_foldl (htarget.foldl hbefore) hu hafter]

/-- A nested mapping gets a new name before it gets a new value, lists are joined and the last text stands. -/
theorem merged_foldl_configuration :
    let target := [("format", .text "csv"), ("limits", .map [("rows", .text "10")]), ("paths", .list ["a"])]
    let project := [("paths", .list ["b", "a"]), ("limits", .map [("columns", .text "4"), ("rows", .text "20")])]
    let user := [("owner", .text "me"), ("format", .text "tsv"), ("limits", .map [("rows", .text "30")])]
    let merged := [("format", .text "tsv"), ("limits", .map [("rows", .text "30"), ("columns", .text "4")]),
      ("paths", .list ["a", "b", "a"]), ("owner", .text "me")]
    (∀ t ∈ [target, project, user], isDistinct t = true) ∧ [target, project, user].Pairwise Compatible ∧
      Merged [target, project, user] merged ∧ merge target (merge project user) = merged := by
  intro target project user merged
  have hdistinct : ∀ t ∈ [target, project, user], isDistinct t = true := by decide
  have hcompatible : [target, project, user].Pairwise Compatible :=
    List.Pairwise.imp Compatible.of_isCompatible (R := fun t u => isCompatible t u = true) (by decide)
  obtain ⟨hmerged, -, hassoc, -⟩ := merged_foldl hdistinct hcompatible
  exact ⟨hdistinct, hcompatible, hmerged, (hassoc target (by simp) project (by simp) user (by simp)).symm.trans rfl⟩

end Bindery.Attr
