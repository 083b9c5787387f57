import Bindery.Proofs.Attr.Merge
import Bindery.Proofs.Except
import Bindery.Proofs.Function.Entry

/-! # Updates from many sources

What is known of a function after any number of sources, told by their entries in order: a list has its last
value, the return type is the last one named, the targets that leave the function out and its flags are those
of all sources, and the internal flag is as the last entry about it says. All other attributes are merged, one
source after the other (`mergedFrom_of_updateAll`). -/

namespace Bindery.Function
open Attr (Value Tree)

/-- Updates from sources, which all have to be accepted. -/
def updateAll (f : Function) : List Tree → Except Error Function
  | [] => .ok f
  | source :: rest =>
    match f.update source with
    | (g, .ok ()) => g.updateAll rest
    | (_, .error e) => .error e

/-! ### What entries say -/

/-- The value of a key that an entry gives, if it is about the key. -/
def valueSaid? (key : String) (e : String × Value) : Option Value := if e.1 = key then some e.2 else none

/-- The return type that an entry names; a blank text names none. -/
def returnTypeSaid? (e : String × Value) : Option String :=
  if e.1 = "RETURN" then (e.2.text?.map Text.trim).filter (· ≠ "") else none

/-- The items that an entry lists under a key. -/
def itemsSaid (key : String) (e : String × Value) : List String := if e.1 = key then e.2.items?.getD [] else []

/-- Whether an entry sets the internal flag or clears it, if it is about that flag. -/
def internalSaid? (e : String × Value) : Option Bool :=
  if e.1 = "INTERNAL" then e.2.text?.map fun s => isYes (Text.asciiLower (Text.trim s))
  else if internalFlag ∈ (itemsSaid "FLAGS" e).map Text.lower then some true
  else none

/-- The last thing that entries say. -/
def last? {α : Type} (said? : String × Value → Option α) (es : List (String × Value)) : Option α :=
  (es.filterMap said?).getLast?

theorem last?_concat {α : Type} (said? : String × Value → Option α) (es : List (String × Value)) (e : String × Value) :
    last? said? (es ++ [e]) = (said? e).or (last? said? es) := by
  rw [last?, List.filterMap_append]
  cases h : said? e <;> simp [h, last?]

/-- What is known of a function from entries, apart from the attributes that are merged. -/
structure Told (es : List (String × Value)) (f : Function) : Prop where
  lists : ∀ key ∈ listKeys, f.attr? key = last? (valueSaid? key) es
  controls : ∀ key ∈ controlKeys, f.attr? key = none
  returnType : f.returnType = (last? returnTypeSaid? es).getD defaultReturnType
  ignoredBy : ∀ x, x ∈ f.ignoredBy ↔ x ∈ es.flatMap (itemsSaid "IGNORE")
  flags : ∀ x, x ≠ internalFlag → (x ∈ f.flags ↔ x ∈ (es.flatMap (itemsSaid "FLAGS")).map Text.lower)
  internal : internalFlag ∈ f.flags ↔ last? internalSaid? es = some true

/-! ### One entry -/

variable {f g : Function} {key other : String} {v : Value} {es : List (String × Value)}

theorem Takes.attr? (h : Takes f key v g) (hother : other ∈ listKeys) :
    g.attr? other = (valueSaid? other (key, v)).or (f.attr? other) := by
  rcases h.attrs with ⟨-, hattrs⟩ | ⟨hkey, hattrs⟩ <;> rw [Function.attr?, hattrs, valueSaid?]
  · rw [Entries.get?_set]
    split <;> rfl
  · have hne : key ≠ other := fun heq => hkey (heq ▸ hother)
    rw [if_neg hne]
    rfl

theorem Takes.attr?_of_control (h : Takes f key v g) (hother : other ∈ controlKeys) : g.attr? other = f.attr? other := by
  rcases h.attrs with ⟨hkey, hattrs⟩ | ⟨-, hattrs⟩ <;> rw [Function.attr?, hattrs]
  · rw [Entries.get?_set_ne v (ne_of_listKeys hkey hother)]
    rfl
  · rfl

theorem Takes.returnType_eq (h : Takes f key v g) : g.returnType = (returnTypeSaid? (key, v)).getD f.returnType := by
  cases h with
  | list v hkey => simp [returnTypeSaid?, ne_of_listKeys hkey (by decide : "RETURN" ∈ controlKeys)]
  | merged v _ hcontrol =>
    simp [returnTypeSaid?, ne_of_not_mem_controlKeys hcontrol (by decide : "RETURN" ∈ controlKeys)]
  | ignore | flags | internal_set | internal_clear => simp [returnTypeSaid?]
  | returns hs => simp [returnTypeSaid?, Value.text?, Option.filter, hs]
  | returns_blank hs => simp [returnTypeSaid?, Value.text?, Option.filter, hs]
  | returns_empty => simp [returnTypeSaid?, Value.text?]

theorem Takes.mem_ignoredBy (h : Takes f key v g) (x : String) :
    x ∈ g.ignoredBy ↔ x ∈ f.ignoredBy ∨ x ∈ itemsSaid "IGNORE" (key, v) := by
  cases h with
  | list v hkey => simp [itemsSaid, ne_of_listKeys hkey (by decide : "IGNORE" ∈ controlKeys)]
  | merged v _ hcontrol =>
    simp [itemsSaid, ne_of_not_mem_controlKeys hcontrol (by decide : "IGNORE" ∈ controlKeys)]
  | ignore hitems => simp [itemsSaid, hitems, NameSet.mem_insertAll, or_comm]
  | flags | internal_set | internal_clear | returns | returns_blank | returns_empty => simp [itemsSaid]

theorem Takes.mem_flags (h : Takes f key v g) {x : String} (hx : x ≠ internalFlag) :
    x ∈ g.flags ↔ x ∈ f.flags ∨ x ∈ (itemsSaid "FLAGS" (key, v)).map Text.lower := by
  cases h with
  | list v hkey => simp [itemsSaid, ne_of_listKeys hkey (by decide : "FLAGS" ∈ controlKeys)]
  | merged v _ hcontrol =>
    simp [itemsSaid, ne_of_not_mem_controlKeys hcontrol (by decide : "FLAGS" ∈ controlKeys)]
  | flags hitems => simp [itemsSaid, hitems, NameSet.mem_insertAll, or_comm]
  | internal_set => simp [itemsSaid, NameSet.mem_insert, hx]
  | internal_clear => simp [itemsSaid, NameSet.mem_erase, hx]
  | ignore | returns | returns_blank | returns_empty => simp [itemsSaid]

theorem Takes.mem_internal (h : Takes f key v g) :
    internalFlag ∈ g.flags ↔ (internalSaid? (key, v)).getD (internalFlag ∈ f.flags) = true := by
  cases h with
  | list v hkey =>
    simp [internalSaid?, itemsSaid, ne_of_listKeys hkey (by decide : "FLAGS" ∈ controlKeys),
      ne_of_listKeys hkey (by decide : "INTERNAL" ∈ controlKeys)]
  | merged v _ hcontrol =>
    simp [internalSaid?, itemsSaid, ne_of_not_mem_controlKeys hcontrol (by decide : "FLAGS" ∈ controlKeys),
      ne_of_not_mem_controlKeys hcontrol (by decide : "INTERNAL" ∈ controlKeys)]
  | flags hitems =>
    rename_i items
    simp only [internalSaid?, itemsSaid, hitems, NameSet.mem_insertAll]
    by_cases hlisted : internalFlag ∈ List.map Text.lower items <;> simp [hlisted]
  | internal_set hyes => simp [internalSaid?, Value.text?, hyes, NameSet.mem_insert]
  | internal_clear hyes => simp [internalSaid?, Value.text?, hyes, NameSet.mem_erase]
  | ignore | returns | returns_blank | returns_empty => simp [internalSaid?, itemsSaid]

/-- An entry adds what it says. -/
theorem Told.takes (h : Told es f) (htakes : Takes f key v g) : Told (es ++ [(key, v)]) g where
  lists other hother := by rw [htakes.attr? hother, h.lists other hother, last?_concat]
  controls other hother := by rw [htakes.attr?_of_control hother, h.controls other hother]
  returnType := by
    rw [htakes.returnType_eq, h.returnType, last?_concat]
    cases returnTypeSaid? (key, v) <;> rfl
  ignoredBy x := by rw [htakes.mem_ignoredBy, h.ignoredBy, List.flatMap_append, List.mem_append, List.flatMap_singleton]
  flags x hx := by
    rw [htakes.mem_flags hx, h.flags x hx, List.flatMap_append, List.map_append, List.mem_append, List.flatMap_singleton]
  internal := by
    rw [htakes.mem_internal, last?_concat]
    cases internalSaid? (key, v) with
    | none => simp [h.internal]
    | some b => simp

theorem Takes.filter_attrs (h : Takes f key v g) :
    g.attrs.filter (fun e => e.1 ∉ listKeys) = f.attrs.filter fun e => e.1 ∉ listKeys := by
  rcases h.attrs with ⟨hkey, hattrs⟩ | ⟨-, hattrs⟩ <;> rw [hattrs]
  exact Entries.filter_set_of_neg (p := fun name => decide (name ∉ listKeys)) v (by simpa using hkey)

theorem takeEntries_cons_ok {e : String × Value} {rest : List (String × Value)}
    (h : f.takeEntries (e :: rest) = (g, .ok ())) :
    ∃ f', Takes f e.1 e.2 f' ∧ f'.takeEntries rest = (g, .ok ()) := by
  obtain ⟨key, v⟩ := e
  rw [takeEntries] at h
  split at h
  · rename_i f' hf
    exact ⟨f', takes_of_takeEntry hf, h⟩
  · cases h

theorem Told.takeEntries {entries : List (String × Value)} (h : Told es f)
    (hrun : f.takeEntries entries = (g, .ok ())) : Told (es ++ entries) g := by
  induction entries generalizing f es with
  | nil =>
    cases hrun
    rwa [List.append_nil]
  | cons e rest ih =>
    obtain ⟨f', htakes, hrest⟩ := takeEntries_cons_ok hrun
    have := ih (h.takes htakes) hrest
    rwa [List.append_assoc] at this

theorem filter_attrs_of_takeEntries {entries : List (String × Value)} (hrun : f.takeEntries entries = (g, .ok ())) :
    g.attrs.filter (fun e => e.1 ∉ listKeys) = f.attrs.filter fun e => e.1 ∉ listKeys := by
  induction entries generalizing f with
  | nil =>
    cases hrun
    rfl
  | cons e rest ih =>
    obtain ⟨f', htakes, hrest⟩ := takeEntries_cons_ok hrun
    rw [ih hrest, htakes.filter_attrs]

/-! ### One source -/

/-- The entries that neither replace a list nor control the description. -/
def remaining (source : Tree) : Tree := source.filter fun e => e.1 ∉ listKeys ∧ e.1 ∉ controlKeys

theorem mergedEntries_eq_remaining (source : Tree) : mergedEntries source = remaining source :=
  List.filter_congr fun _ _ => decide_eq_decide.mpr KeyRole.ofKey_eq_merged_iff

theorem of_mem_names_remaining {source : Tree} (h : other ∈ Entries.names (remaining source)) :
    other ∉ listKeys ∧ other ∉ controlKeys := by
  obtain ⟨e, he, rfl⟩ := List.mem_map.mp h
  exact of_decide_eq_true (List.mem_filter.mp he).2

/-- What is known of a function after sources. -/
structure MergedFrom (sources : List Tree) (f : Function) : Prop extends Told sources.flatten f where
  merged : f.attrs.filter (fun e => e.1 ∉ listKeys) =
    sources.foldl (fun target source => Attr.merge target (remaining source)) []

theorem mergedFrom_new (name : String) (strict : Bool) : MergedFrom [] (new name strict) where
  lists _ _ := rfl
  controls _ _ := rfl
  returnType := rfl
  ignoredBy x := by simp [new, NameSet.not_mem_empty]
  flags x _ := by simp [new, NameSet.not_mem_empty]
  internal := by simp [new, NameSet.not_mem_empty, last?]
  merged := rfl

theorem MergedFrom.update {sources : List Tree} {source : Tree} (h : MergedFrom sources f)
    (hupdate : f.update source = (g, .ok ())) : MergedFrom (sources ++ [source]) g := by
  rw [Function.update] at hupdate
  rcases hrun : f.takeEntries source with ⟨f', e | u⟩ <;> rw [hrun] at hupdate
  · cases hupdate
  cases hupdate
  have htold := h.toTold.takeEntries hrun
  -- What is merged has other names than the lists and the keys that control the description.
  have hkeep : ∀ key, key ∈ listKeys ∨ key ∈ controlKeys →
      Entries.get? (Attr.merge f'.attrs (remaining source)) key = f'.attr? key := fun key hkey =>
    Attr.get?_merge_of_not_mem fun hmem =>
      hkey.elim (of_mem_names_remaining hmem).1 (of_mem_names_remaining hmem).2
  rw [mergedEntries_eq_remaining]
  rw [← List.flatten_concat] at htold
  refine ⟨⟨fun key hkey => ?_, fun key hkey => ?_, htold.returnType, htold.ignoredBy, htold.flags, htold.internal⟩, ?_⟩
  · exact (hkeep key (Or.inl hkey)).trans (htold.lists key hkey)
  · exact (hkeep key (Or.inr hkey)).trans (htold.controls key hkey)
  · have hnames : ∀ name ∈ Entries.names (remaining source), decide (name ∉ listKeys) = true := fun name hname =>
      decide_eq_true (of_mem_names_remaining hname).1
    rw [List.foldl_append, List.foldl_cons, List.foldl_nil, ← h.merged, ← filter_attrs_of_takeEntries hrun]
    exact Attr.filter_merge hnames

/-! ### All sources -/

theorem MergedFrom.updateAll {before sources : List Tree} (h : MergedFrom before f)
    (hupdates : f.updateAll sources = .ok g) : MergedFrom (before ++ sources) g := by
  induction sources generalizing f before with
  | nil =>
    cases hupdates
    rwa [List.append_nil]
  | cons source rest ih =>
    rw [Function.updateAll] at hupdates
    split at hupdates
    · rename_i f' hf
      have := ih (h.update hf) hupdates
      rwa [List.append_assoc] at this
    · cases hupdates

/-- A function that starts with nothing known of it and accepts all updates is described by what the sources
say, merged as the role of each key wants it. -/
theorem mergedFrom_of_updateAll {name : String} {strict : Bool} {sources : List Tree} {f : Function}
    (h : (new name strict).updateAll sources = .ok f) : MergedFrom sources f :=
  (mergedFrom_new name strict).updateAll h

/-- The second source clears the flag that the first one sets, names no return type and replaces the parameters. -/
theorem mergedFrom_of_updateAll_two :
    MergedFrom
      [[("PARAMS", .text "IN x"), ("RETURN", .text " BOOLEAN "), ("FLAGS", .text "Internal, Pure"),
          ("R", .map [("BODY", .text "f()")])],
        [("R", .map [("NAME", .text "g")]), ("RETURN", .text " "), ("INTERNAL", .text "no"),
          ("PARAMS", .text "OUT y"), ("IGNORE", .text "Java")]]
      ⟨"f", [("PARAMS", .text "OUT y"), ("R", .map [("BODY", .text "f()"), ("NAME", .text "g")])], "BOOLEAN",
        NameSet.empty.insert "pure", NameSet.empty.insert "Java", true⟩ := by
  have h : (new "f" true).updateAll
      [[("PARAMS", .text "IN x"), ("RETURN", .text " BOOLEAN "), ("FLAGS", .text "Internal, Pure"),
          ("R", .map [("BODY", .text "f()")])],
        [("R", .map [("NAME", .text "g")]), ("RETURN", .text " "), ("INTERNAL", .text "no"),
          ("PARAMS", .text "OUT y"), ("IGNORE", .text "Java")]] =
      .ok ⟨"f", [("PARAMS", .text "OUT y"), ("R", .map [("BODY", .text "f()"), ("NAME", .text "g")])], "BOOLEAN",
        NameSet.empty.insert "pure", NameSet.empty.insert "Java", true⟩ := by decide +kernel
  exact mergedFrom_of_updateAll h

end Bindery.Function
