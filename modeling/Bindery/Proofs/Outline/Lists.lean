import Bindery.Proofs.Attr.Paths
import Bindery.Proofs.Outline.RoundTrip

/-! # Lists in outlines

An outline has no lists: it shows the items of a list as one text, with commas between them. What is read back from a
written tree has the same names at every path, and the same texts (`shownAs_of_write`). In the place of a list it has a
text with the items of the list, unless an item has a comma of its own: such an item comes back in pieces. -/

namespace Bindery

/-- Trimming keeps every character that is not blank. -/
theorem Text.mem_trimChars {cs : List Char} {c : Char} (hc : isBlank c = false) (h : c ∈ cs) : c ∈ trimChars cs := by
  have hdrop : ∀ {ds : List Char}, c ∈ ds → c ∈ ds.dropWhile isBlank := fun {ds} hmem => by
    rw [← List.takeWhile_append_dropWhile (p := isBlank) (l := ds), List.mem_append] at hmem
    refine hmem.resolve_left fun hblank => ?_
    rw [List.all_eq_true.mp List.all_takeWhile c hblank] at hc
    cases hc
  rw [trimChars, dropEndWhile, List.mem_reverse]
  exact hdrop (List.mem_reverse.mpr (hdrop h))

namespace Attr.Value
open items? (clean)

variable {items : List String}

/-! ### Items of texts -/

theorem clean_append (a b : List String) : clean (a ++ b) = clean a ++ clean b := by simp [clean]

theorem clean_split_space (cs : List Char) :
    clean ((Text.splitWhere (· == ',') (' ' :: cs)).map String.ofList) =
      clean ((Text.splitWhere (· == ',') cs).map String.ofList) := by
  obtain ⟨p, ps, hps⟩ := List.exists_cons_of_ne_nil (Text.splitWhere_ne_nil (· == ',') cs)
  have hblank : ∀ c ∈ [' '], Text.isBlank c = true := fun c hc => by
    rw [List.mem_singleton.mp hc]
    decide
  have htrim : Text.trimChars (' ' :: p) = Text.trimChars p := Text.trimChars_append hblank
  rw [Text.splitWhere, if_neg (by decide), hps]
  simp [clean, Text.consFirst, Text.trim, htrim]

/-- The items of a joined text are those of the texts that were joined. -/
theorem clean_split_commaJoin (items : List String) :
    clean (Text.split ',' (Text.commaJoin items)) = clean (items.flatMap (Text.split ',')) := by
  induction items with
  | nil => decide
  | cons item rest ih =>
    cases rest with
    | nil => simp [Text.commaJoin, Text.joinWith]
    | cons next rest =>
      have hsplit : Text.split ',' (Text.commaJoin (item :: next :: rest)) = Text.split ',' item ++
          (Text.splitWhere (· == ',') (' ' :: (Text.commaJoin (next :: rest)).toList)).map String.ofList := by
        have hchars : (Text.commaJoin (item :: next :: rest)).toList =
            item.toList ++ ',' :: ' ' :: (Text.commaJoin (next :: rest)).toList := by
          simp [Text.commaJoin, Text.joinWith]
        rw [Text.split, hchars, Text.splitWhere_append_cons (by decide), List.map_append, Text.split]
      rw [hsplit, List.flatMap_cons, clean_append, clean_append, clean_split_space, ← ih]
      rfl

/-- The items of texts are the texts themselves if and only if none of them has a comma. -/
theorem clean_flatMap_split_iff :
    clean (items.flatMap (Text.split ',')) = clean items ↔ ∀ item ∈ items, ',' ∉ item.toList := by
  constructor
  · -- An item with a comma has it still when it is trimmed, but no piece has one.
    intro h item hitem hcomma
    have hkept : ',' ∈ (Text.trim item).toList := by
      rw [Text.trim, String.toList_ofList]
      exact Text.mem_trimChars (by decide) hcomma
    have hmem : Text.trim item ∈ clean items := by
      rw [clean, List.mem_filter]
      refine ⟨List.mem_map_of_mem hitem, ?_⟩
      rw [decide_eq_true_iff]
      intro hempty
      rw [hempty] at hkept
      cases hkept
    rw [← h, clean, List.mem_filter, List.mem_map] at hmem
    obtain ⟨⟨piece, hpiece, htrim⟩, -⟩ := hmem
    obtain ⟨item', -, hpiece⟩ := List.mem_flatMap.mp hpiece
    obtain ⟨cs, hcs, rfl⟩ := List.mem_map.mp hpiece
    rw [← htrim, Text.trim, String.toList_ofList, String.toList_ofList] at hkept
    exact absurd (Text.mem_of_mem_splitWhere hcs ',' (Text.mem_of_mem_trimChars hkept)).1 (by decide)
  · intro h
    have hsplit : ∀ item ∈ items, Text.split ',' item = [item] := fun item hitem => by
      have hnone : ∀ c ∈ item.toList, (c == ',') = false := fun c hc => by
        rw [beq_eq_false_iff_ne]
        rintro rfl
        exact h item hitem hc
      rw [Text.split, Text.splitWhere_of_forall hnone]
      simp
    rw [List.flatMap_congr hsplit, List.flatMap_singleton']

end Attr.Value

namespace Outline
open Attr (Value Tree)

/-! ### Trees as outlines show them -/

/-- What a tree holds at a path, and what is held there by the tree that an outline shows. -/
inductive ShownAs : Option Value → Option Value → Prop
  | nothing : ShownAs none none
  | text (s : String) : ShownAs (some (.text s)) (some (.text s))
  /-- The items are those of the texts in the list, which are those of the list if none of the texts has a comma. -/
  | list {items : List String} {s : String}
      (pieces : (Value.text s).items? = some (Value.items?.clean (items.flatMap (Text.split ','))))
      (same : (Value.text s).items? = (Value.list items).items? ↔ ∀ item ∈ items, ',' ∉ item.toList) :
      ShownAs (some (.list items)) (some (.text s))
  | map {entries entries' : Tree} (names : Entries.names entries' = Entries.names entries) :
      ShownAs (some (.map entries)) (some (.map entries'))

theorem shownAs_plainValue (v : Value) : ShownAs (some v) (some (plainValue v)) := by
  cases v with
  | text s => exact .text s
  | list items =>
    have hpieces : (Value.text (Text.commaJoin items)).items? =
        some (Value.items?.clean (items.flatMap (Text.split ','))) := by
      rw [Value.items?, Value.clean_split_commaJoin]
    refine .list hpieces ?_
    rw [hpieces, Value.items?, Option.some.injEq]
    exact Value.clean_flatMap_split_iff
  | map entries => exact .map (names_plain entries)

theorem get?_plain (tree : Tree) (k : String) :
    Entries.get? (plain tree) k = (Entries.get? tree k).map plainValue := by
  induction tree with
  | nil => rfl
  | cons e rest ih =>
    obtain ⟨key, v⟩ := e
    rw [plain, Entries.get?, Entries.get?, ih]
    split <;> rfl

theorem at?_plainValue (v : Value) (path : List String) : (plainValue v).at? path = (v.at? path).map plainValue := by
  induction path generalizing v with
  | nil =>
    rw [Value.at?, Value.at?]
    rfl
  | cons k path ih =>
    cases v with
    | text s => rfl
    | list items => rfl
    | map entries =>
      rw [plainValue, Value.at?, Value.at?, get?_plain]
      cases Entries.get? entries k with
      | none => rfl
      | some w => exact ih w

/-- A tree that can be written is read back, and every path leads to what an outline shows of what the tree
holds there. -/
theorem shownAs_of_write {tree : Tree} {s : String} (hd : Attr.isDistinct tree = true) (hw : write tree = .ok s) :
    ∃ back, read s = .ok back ∧ ∀ path, ShownAs (Attr.at? tree path) (Attr.at? back path) := by
  refine ⟨plain tree, read_of_write hd hw, fun path => ?_⟩
  have hat : Attr.at? (plain tree) path = (Attr.at? tree path).map plainValue := by
    rw [Attr.at?, ← plainValue, at?_plainValue, Attr.at?]
  rw [hat]
  cases Attr.at? tree path with
  | none => exact .nothing
  | some v => exact shownAs_plainValue v

theorem shownAs_of_write_items :
    write [("f", .map [("IGNORE", .list ["RR", "RC"])])] = .ok "f:\n    IGNORE: RR, RC\n" ∧
      ∃ back, read "f:\n    IGNORE: RR, RC\n" = .ok back ∧
        ShownAs (some (.list ["RR", "RC"])) (Attr.at? back ["f", "IGNORE"]) := by
  have hw : write [("f", .map [("IGNORE", .list ["RR", "RC"])])] = .ok "f:\n    IGNORE: RR, RC\n" := by decide +kernel
  obtain ⟨back, hback, hshown⟩ := shownAs_of_write (by decide) hw
  exact ⟨hw, back, hback, hshown ["f", "IGNORE"]⟩

/-- A default value with a comma makes two items of one. -/
theorem write_splits_items :
    Attr.isDistinct [("f", .map [("PARAMS", .list ["VECTOR v = c(1,2)", "INT n"])])] = true ∧
      write [("f", .map [("PARAMS", .list ["VECTOR v = c(1,2)", "INT n"])])] =
        .ok "f:\n    PARAMS: VECTOR v = c(1,2), INT n\n" ∧
      (Value.list ["VECTOR v = c(1,2)", "INT n"]).items? = some ["VECTOR v = c(1,2)", "INT n"] ∧
      ∃ back v, read "f:\n    PARAMS: VECTOR v = c(1,2), INT n\n" = .ok back ∧
        Attr.at? back ["f", "PARAMS"] = some v ∧ v.items? = some ["VECTOR v = c(1", "2)", "INT n"] :=
  ⟨by decide, by decide +kernel, by decide +kernel, [("f", .map [("PARAMS", .text "VECTOR v = c(1,2), INT n")])],
    .text "VECTOR v = c(1,2), INT n", by decide +kernel, rfl, by decide +kernel⟩

end Outline
end Bindery
