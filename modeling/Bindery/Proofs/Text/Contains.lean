import Bindery.Template.Skeleton
import Bindery.Text.Pieces
import Bindery.Proofs.Except
import Mathlib.Algebra.BigOperators.Group.List.Basic
import Mathlib.Algebra.GroupWithZero.Nat
import Mathlib.Data.List.Infix

/-! # Texts inside texts

A text contains another if the other stands somewhere in it. A skeleton contains what its holes are filled with, and a
joined text its items. Empty items leave their separators behind: without them a joined text is shorter, unless there
was nothing to separate (`joinWith_filter_eq_iff`). -/

namespace Bindery

namespace Text
variable {part s t sep : String} {items : List String}

/-! ### Containing -/

theorem isSome_cutAtChars?_iff {sep cs : List Char} : (cutAtChars? sep cs).isSome ↔ sep <:+: cs := by
  induction cs with
  | nil =>
    rw [cutAtChars?, List.infix_nil]
    cases sep <;> simp
  | cons c cs ih =>
    rw [cutAtChars?, List.infix_cons_iff, ← ih]
    split
    · rename_i rest hrest
      rw [List.isPrefixOf?_eq_some_iff_append_eq] at hrest
      simp [← hrest]
    · rename_i hnone
      have hnot : ¬sep <+: c :: cs := by
        rw [← List.isPrefixOf_iff_prefix, ← List.isSome_isPrefixOf?_eq_isPrefixOf, hnone]
        simp
      simp [hnot]

theorem contains_iff : contains part s ↔ part.toList <:+: s.toList := by
  rw [contains, cutAt?, Option.isSome_map, isSome_cutAtChars?_iff]

theorem contains_self (s : String) : contains s s := contains_iff.mpr List.infix_rfl

theorem contains_trans (h₁ : contains part s) (h₂ : contains s t) : contains part t :=
  contains_iff.mpr ((contains_iff.mp h₁).trans (contains_iff.mp h₂))

theorem contains_append_left (s : String) (h : contains part t) : contains part (s ++ t) := by
  rw [contains_iff, String.toList_append]
  exact List.infix_append_of_infix_right (contains_iff.mp h)

theorem contains_append_right (t : String) (h : contains part s) : contains part (s ++ t) := by
  rw [contains_iff, String.toList_append]
  exact List.infix_append_of_infix_left (contains_iff.mp h)

theorem contains_append (before part after : String) : contains part (before ++ part ++ after) :=
  contains_append_right after (contains_append_left before (contains_self part))

/-- Texts that end another stand in it together. -/
theorem contains_append_three (before a b c : String) : contains (a ++ b ++ c) (before ++ a ++ b ++ c) := by
  have hparts := contains_append_left before (contains_self (a ++ b ++ c))
  simpa only [String.append_assoc] using hparts

theorem contains_line_end (margin front part after : String) :
    contains (part ++ after) (margin ++ (front ++ part) ++ after) := by
  have hend := contains_append_left (margin ++ front) (contains_self (part ++ after))
  simpa only [String.append_assoc] using hend

/-- A call stands at the end of the line that it is written in. -/
theorem contains_call_end (margin front function opening args closing after : String) :
    contains (function ++ opening ++ args ++ closing ++ after)
      (margin ++ (front ++ function ++ opening ++ args ++ closing) ++ after) := by
  have hend := contains_line_end margin front (function ++ opening ++ args ++ closing) after
  simpa only [String.append_assoc] using hend

/-- A text of three parts stands in another, where it is written together with what is before it and after it. -/
theorem contains_glued {front closing before after first last : String} (middle : String)
    (hfront : front = before ++ first) (hclosing : closing = last ++ after) :
    contains (first ++ middle ++ last) (front ++ middle ++ closing) := by
  have hparts := contains_append before (first ++ middle ++ last) after
  simp only [String.append_assoc] at hparts
  simpa only [hfront, hclosing, String.append_assoc] using hparts

/-- A text that lacks a character of two texts stands on one side of it. -/
theorem infix_append_cons_iff {part a b : List Char} {d : Char} (hd : d ∉ part) :
    part <:+: a ++ d :: b ↔ part <:+: a ∨ part <:+: b := by
  have hbegins : ∀ {l}, part <+: l ++ d :: b → part <+: l := by
    intro l h
    rcases List.prefix_or_prefix_of_prefix h (List.prefix_append l (d :: b)) with h' | ⟨t, rfl⟩
    · exact h'
    · rw [List.prefix_append_right_inj] at h
      cases t with
      | nil => simp
      | cons x t =>
        obtain rfl := (List.cons_prefix_cons.mp h).1
        exact absurd (by simp) hd
  induction a with
  | nil =>
    rw [List.nil_append, List.infix_cons_iff, List.infix_nil]
    constructor
    · rintro (h | h)
      · exact Or.inl (List.prefix_nil.mp (hbegins (l := []) h))
      · exact Or.inr h
    · rintro (rfl | h)
      · exact Or.inl (List.nil_prefix ..)
      · exact Or.inr h
  | cons x a ih =>
    have hhead : part <+: x :: (a ++ d :: b) ↔ part <+: x :: a :=
      ⟨fun h => hbegins (l := x :: a) h, fun h => h.trans (List.prefix_append (x :: a) _)⟩
    rw [List.cons_append, List.infix_cons_iff, List.infix_cons_iff, hhead, or_assoc]
    exact or_congr_right ih

/-! ### Joining -/

theorem joinWith_cons_of_ne_nil (h : items ≠ []) : joinWith sep (s :: items) = s ++ sep ++ joinWith sep items := by
  obtain ⟨t, rest, rfl⟩ := List.exists_cons_of_ne_nil h
  rfl

theorem joinWith_eq_intercalate (sep : String) (items : List String) : joinWith sep items = sep.intercalate items := by
  induction items with
  | nil => rfl
  | cons s rest ih =>
    by_cases hrest : rest = []
    · subst hrest
      rw [joinWith, String.intercalate_singleton]
    · rw [joinWith_cons_of_ne_nil hrest, String.intercalate_cons_of_ne_nil hrest, ih]

theorem commaJoin_eq_intercalate (items : List String) : commaJoin items = ", ".intercalate items :=
  joinWith_eq_intercalate ", " items

theorem toList_joinWith (sep : String) (items : List String) :
    (joinWith sep items).toList = sep.toList.intercalate (items.map String.toList) := by
  rw [joinWith_eq_intercalate, String.toList_intercalate]

theorem toList_replace (old new s : String) :
    (replace old new s).toList = new.toList.intercalate (splitAtChars old.toList 0 s.toList) := by
  rw [replace, toList_joinWith, splitAt, List.map_map]
  congr 1
  simp

theorem contains_joinWith (sep : String) (h : s ∈ items) : contains s (joinWith sep items) := by
  induction items with
  | nil => cases h
  | cons t rest ih =>
    by_cases hrest : rest = []
    · subst hrest
      rw [List.mem_singleton.mp h]
      exact contains_self t
    · rw [joinWith_cons_of_ne_nil hrest]
      rcases List.mem_cons.mp h with rfl | h
      · exact contains_append_right _ (contains_append_right _ (contains_self s))
      · exact contains_append_left _ (ih h)

/-- An item stands in a joined text together with the separator behind it, if there is one behind the last too. -/
theorem contains_joinWith_append (sep : String) (h : s ∈ items) : contains (s ++ sep) (joinWith sep items ++ sep) := by
  induction items with
  | nil => cases h
  | cons t rest ih =>
    by_cases hrest : rest = []
    · subst hrest
      rw [List.mem_singleton.mp h]
      exact contains_self (t ++ sep)
    · rw [joinWith_cons_of_ne_nil hrest]
      rcases List.mem_cons.mp h with rfl | h
      · exact contains_append_right _ (contains_append_right _ (contains_self (s ++ sep)))
      · rw [String.append_assoc]
        exact contains_append_left _ (ih h)

theorem contains_join (h : s ∈ items) : contains s (String.join items) := by
  induction items with
  | nil => cases h
  | cons t rest ih =>
    rw [String.join_cons]
    rcases List.mem_cons.mp h with rfl | h
    · exact contains_append_right _ (contains_self s)
    · exact contains_append_left _ (ih h)

theorem length_joinWith (sep : String) (items : List String) :
    (joinWith sep items).length = (items.map String.length).sum + sep.length * (items.length - 1) := by
  induction items with
  | nil => simp [joinWith]
  | cons s rest ih =>
    by_cases hrest : rest = []
    · subst hrest
      simp [joinWith]
    · have hpos : 0 < rest.length := List.length_pos_iff.mpr hrest
      obtain ⟨n, hn⟩ := Nat.exists_eq_succ_of_ne_zero hpos.ne'
      rw [joinWith_cons_of_ne_nil hrest, String.length_append, String.length_append, ih, List.map_cons, List.sum_cons,
        List.length_cons, hn, Nat.succ_sub_one, Nat.succ_sub_one, Nat.mul_succ]
      omega

theorem sum_length_filter (items : List String) :
    ((items.filter (· ≠ "")).map String.length).sum = (items.map String.length).sum := by
  induction items with
  | nil => rfl
  | cons s rest ih =>
    by_cases hs : s = "" <;> simp [hs] at ih ⊢ <;> omega

theorem length_filter_ne_empty_iff : (items.filter (· ≠ "")).length = items.length ↔ "" ∉ items := by
  rw [List.length_filter_eq_length_iff]
  simp [← ne_eq, List.forall_mem_ne']

/-- Empty items may be left out of a joined text if there are none, or nothing is separated. -/
theorem joinWith_filter_eq_iff (hsep : sep ≠ "") :
    joinWith sep items = joinWith sep (items.filter (· ≠ "")) ↔ "" ∉ items ∨ items.length ≤ 1 := by
  constructor
  · intro h
    have hlength := congrArg String.length h
    rw [length_joinWith, length_joinWith, sum_length_filter, Nat.add_left_cancel_iff] at hlength
    have hpos : 0 < sep.length := Nat.pos_of_ne_zero (mt String.length_eq_zero_iff.mp hsep)
    have hsame := Nat.eq_of_mul_eq_mul_left hpos hlength
    rw [← length_filter_ne_empty_iff]
    omega
  · rintro (h | h)
    · rw [List.filter_eq_self.mpr fun s hs => decide_eq_true (ne_of_mem_of_not_mem hs h)]
    · match items with
      | [] => rfl
      | [s] => by_cases hs : s = "" <;> simp [hs, joinWith]

end Text

namespace Template.Skeleton

variable {part rest skeleton : Skeleton} {fields : Entries String} {text : String}

theorem fill_append : fill fields (part ++ rest) = .ok text ↔
    ∃ before after, fill fields part = .ok before ∧ fill fields rest = .ok after ∧ text = before ++ after := by
  induction part generalizing text with
  | nil => simp [fill]
  | cons p part ih =>
    rw [List.cons_append, fill, fill]
    split
    · simp
    · simp only [map_eq_ok_iff, ih]
      constructor
      · rintro ⟨_, ⟨before, after, hbefore, hafter, rfl⟩, rfl⟩
        exact ⟨_, after, ⟨before, hbefore, rfl⟩, hafter, (String.append_assoc ..).symm⟩
      · rintro ⟨_, after, ⟨before, hbefore, rfl⟩, hafter, rfl⟩
        exact ⟨_, ⟨before, after, hbefore, hafter, rfl⟩, (String.append_assoc ..).symm⟩

/-- A filled skeleton contains each of its parts as it is filled. -/
theorem contains_of_fill (h : fill fields skeleton = .ok text) (hpart : part <:+: skeleton) {value : String}
    (hvalue : fill fields part = .ok value) : Text.contains value text := by
  obtain ⟨before, after, rfl⟩ := hpart
  obtain ⟨_, _, hfront, -, rfl⟩ := fill_append.mp h
  obtain ⟨_, _, -, hmiddle, rfl⟩ := fill_append.mp hfront
  cases hvalue.symm.trans hmiddle
  exact Text.contains_append ..

theorem contains_of_hole (name : String) {value : String} (h : fill fields skeleton = .ok text)
    (hhole : .hole name ∈ skeleton) (hget : Entries.get? fields name = some value) : Text.contains value text := by
  refine contains_of_fill h ((List.singleton_infix_iff _ _).mpr hhole) ?_
  simp [fill, fillPart, hget, Except.map]

/-- A hole is filled between the fixed texts around it. -/
theorem contains_of_framed {before name after value : String} (h : fill fields skeleton = .ok text)
    (hpart : [.fixed before, .hole name, .fixed after] <:+: skeleton) (hget : Entries.get? fields name = some value) :
    Text.contains (before ++ value ++ after) text := by
  refine contains_of_fill h hpart ?_
  simp [fill, fillPart, hget, Except.map, String.append_assoc]

/-- A hole is filled in front of the fixed text after it. -/
theorem contains_of_followed {name after value : String} (h : fill fields skeleton = .ok text)
    (hpart : [.hole name, .fixed after] <:+: skeleton) (hget : Entries.get? fields name = some value) :
    Text.contains (value ++ after) text := by
  refine contains_of_fill h hpart ?_
  simp [fill, fillPart, hget, Except.map]

end Template.Skeleton
end Bindery
