import Bindery.Text.Pieces

/-! # Trimming, cutting and joining

What the cuts of `Bindery/Text/Pieces.lean` leave of a text whose shape is known: trimming leaves a text
alone that neither begins nor ends with a blank, splitting leaves a text whole that has no separator, and
the pieces found at a separator make the text again when they are joined with it. -/

namespace Bindery.Text

/-! ### Trimming -/

/-- A text that neither begins nor ends with a blank. -/
structure Trimmed (cs : List Char) : Prop where
  head : ∀ c ∈ cs.head?, isBlank c = false
  last : ∀ c ∈ cs.getLast?, isBlank c = false

theorem dropWhile_of_head {p : Char → Bool} {cs : List Char} (h : ∀ c ∈ cs.head?, p c = false) :
    cs.dropWhile p = cs := by
  cases cs with
  | nil => rfl
  | cons c cs => rw [List.dropWhile_cons_of_neg (by simp [h c rfl])]

theorem head?_dropWhile {p : Char → Bool} {cs : List Char} : ∀ c ∈ (cs.dropWhile p).head?, p c = false := by
  intro c hc
  have hnot := List.head?_dropWhile_not p cs
  rwa [Option.mem_def.mp hc] at hnot

theorem dropEndWhile_of_last {p : Char → Bool} {cs : List Char} (h : ∀ c ∈ cs.getLast?, p c = false) :
    dropEndWhile p cs = cs := by
  unfold dropEndWhile
  rw [dropWhile_of_head (by simpa using h), List.reverse_reverse]

theorem getLast?_dropEndWhile {p : Char → Bool} {cs : List Char} :
    ∀ c ∈ (dropEndWhile p cs).getLast?, p c = false := by
  intro c hc
  rw [dropEndWhile, List.getLast?_reverse] at hc
  exact head?_dropWhile c hc

theorem dropEndWhile_prefix_self (p : Char → Bool) (cs : List Char) : dropEndWhile p cs <+: cs := by
  rw [dropEndWhile, ← List.reverse_suffix, List.reverse_reverse]
  exact List.dropWhile_suffix p

theorem exists_eq_dropEndWhile_append (p : Char → Bool) (cs : List Char) :
    ∃ ends, cs = dropEndWhile p cs ++ ends ∧ ∀ c ∈ ends, p c = true := by
  refine ⟨(cs.reverse.takeWhile p).reverse, ?_, fun c hc =>
    List.all_eq_true.mp List.all_takeWhile c (List.mem_reverse.mp hc)⟩
  rw [dropEndWhile, ← List.reverse_append, List.takeWhile_append_dropWhile, List.reverse_reverse]

theorem dropEndWhile_append {p : Char → Bool} {cs ds : List Char} (h : ∀ c ∈ ds, p c = true) :
    dropEndWhile p (cs ++ ds) = dropEndWhile p cs := by
  unfold dropEndWhile
  rw [List.reverse_append, List.dropWhile_append_of_pos (by simpa using h)]

theorem getLast?_of_suffix {cs ds : List Char} (h : cs <:+ ds) : ∀ c ∈ cs.getLast?, c ∈ ds.getLast? := by
  obtain ⟨front, rfl⟩ := h
  intro c hc
  rw [List.getLast?_append, Option.mem_def.mp hc]
  rfl

/-- What is dropped at the beginning of a text ends in it, whatever stands behind the text. -/
theorem dropWhile_append_of_last {p : Char → Bool} {cs ds : List Char} (hne : cs ≠ [])
    (h : ∀ c ∈ cs.getLast?, p c = false) : (cs ++ ds).dropWhile p = cs.dropWhile p ++ ds := by
  have hstop : ¬(cs.dropWhile p).isEmpty := by
    intro hempty
    have htaken := List.takeWhile_append_dropWhile (p := p) (l := cs)
    rw [List.isEmpty_iff.mp hempty, List.append_nil] at htaken
    have hlast : cs.getLast hne ∈ cs.takeWhile p := htaken.symm ▸ List.getLast_mem hne
    have hp := List.all_eq_true.mp List.all_takeWhile _ hlast
    rw [h _ (List.getLast?_eq_some_getLast hne)] at hp
    cases hp
  rw [List.dropWhile_append, if_neg hstop]

theorem trimChars_of_trimmed {cs : List Char} (h : Trimmed cs) : trimChars cs = cs := by
  rw [trimChars, dropWhile_of_head h.head, dropEndWhile_of_last h.last]

theorem trimChars_append {blanks cs : List Char} (h : ∀ c ∈ blanks, isBlank c = true) :
    trimChars (blanks ++ cs) = trimChars cs := by
  rw [trimChars, List.dropWhile_append_of_pos h, trimChars]

theorem trimChars_append_right {blanks cs : List Char} (h : ∀ c ∈ blanks, isBlank c = true) :
    trimChars (cs ++ blanks) = trimChars cs := by
  have hnil : blanks.dropWhile isBlank = [] := by
    rw [← List.append_nil blanks, List.dropWhile_append_of_pos h]
    rfl
  unfold trimChars
  rw [List.dropWhile_append]
  split
  · rename_i hempty
    rw [List.isEmpty_iff.mp hempty, hnil]
  · exact dropEndWhile_append h

theorem trimmed_trimChars (cs : List Char) : Trimmed (trimChars cs) where
  head c hc := by
    obtain ⟨rest, hrest⟩ := dropEndWhile_prefix_self isBlank (cs.dropWhile isBlank)
    refine @head?_dropWhile isBlank cs c ?_
    rw [← hrest, List.head?_append]
    rw [trimChars] at hc
    rw [Option.mem_def.mp hc]
    rfl
  last := getLast?_dropEndWhile

/-- A text behind which a character is put keeps the blanks at its end. -/
theorem trimChars_concat {c : Char} (hc : isBlank c = false) (cs : List Char) :
    trimChars (cs ++ [c]) = cs.dropWhile isBlank ++ [c] := by
  have hdrop : (cs ++ [c]).dropWhile isBlank = cs.dropWhile isBlank ++ [c] := by
    rw [List.dropWhile_append, List.dropWhile_cons_of_neg (by simp [hc])]
    split
    · rename_i hempty
      rw [List.isEmpty_iff.mp hempty, List.nil_append]
    · rfl
  rw [trimChars, hdrop, dropEndWhile_of_last (by simpa using hc)]

theorem mem_of_mem_trimChars {c : Char} {cs : List Char} (h : c ∈ trimChars cs) : c ∈ cs :=
  (List.dropWhile_sublist isBlank).subset ((dropEndWhile_prefix_self isBlank _).subset h)

theorem trim_eq_self_iff {s : String} : trim s = s ↔ Trimmed s.toList := by
  rw [trim, ← String.toList_inj, String.toList_ofList]
  exact ⟨fun h => h ▸ trimmed_trimChars s.toList, trimChars_of_trimmed⟩

theorem trimmed_append {a b : List Char} (ha : a ≠ []) (hb : b ≠ []) (head : ∀ c ∈ a.head?, isBlank c = false)
    (last : ∀ c ∈ b.getLast?, isBlank c = false) : Trimmed (a ++ b) where
  head := by
    obtain ⟨c, a, rfl⟩ := List.exists_cons_of_ne_nil ha
    exact head
  last := by
    rw [List.getLast?_append, List.getLast?_eq_some_getLast hb, Option.some_or, ← List.getLast?_eq_some_getLast hb]
    exact last

/-! ### Cutting and splitting -/

/-- The first separator is the one after a text that has none. -/
theorem cutWhere?_append {p : Char → Bool} {a b : List Char} {c : Char} (ha : ∀ x ∈ a, p x = false)
    (hc : p c = true) : cutWhere? p (a ++ c :: b) = some (a, b) := by
  induction a with
  | nil => simp [cutWhere?, hc]
  | cons x a ih =>
    rw [List.cons_append, cutWhere?, if_neg (by simp [ha x (by simp)]),
      ih fun y hy => ha y (List.mem_cons_of_mem x hy)]
    rfl

/-- A text is cut at its first separator. -/
theorem cutWhere?_eq_some {p : Char → Bool} {cs a b : List Char} (h : cutWhere? p cs = some (a, b)) :
    ∃ c, p c = true ∧ (∀ x ∈ a, p x = false) ∧ cs = a ++ c :: b := by
  induction cs generalizing a with
  | nil => cases h
  | cons x cs ih =>
    rw [cutWhere?] at h
    split at h
    · rename_i hx
      cases h
      exact ⟨x, hx, by simp, rfl⟩
    · rename_i hx
      obtain ⟨⟨a', b'⟩, hcut, heq⟩ := Option.map_eq_some_iff.mp h
      cases heq
      obtain ⟨c, hc, ha, rfl⟩ := ih hcut
      exact ⟨c, hc, List.forall_mem_cons.mpr ⟨by simpa using hx, ha⟩, rfl⟩

theorem cutWhere?_eq_none_iff {p : Char → Bool} {cs : List Char} : cutWhere? p cs = none ↔ ∀ c ∈ cs, p c = false := by
  induction cs with
  | nil => simp [cutWhere?]
  | cons c cs ih =>
    rw [cutWhere?, List.forall_mem_cons]
    split
    · rename_i hc
      simp [hc]
    · rename_i hc
      rw [Option.map_eq_none_iff, ih]
      simp [hc]

theorem cutWhere?_beq_eq_none_iff {c : Char} {cs : List Char} : cutWhere? (· == c) cs = none ↔ c ∉ cs := by
  rw [cutWhere?_eq_none_iff]
  constructor
  · intro h hc
    simpa using h c hc
  · intro h x hx
    rw [beq_eq_false_iff_ne]
    rintro rfl
    exact h hx

theorem mem_of_mem_consFirst {c : Char} {p : List Char} {ps : List (List Char)} (h : p ∈ consFirst c ps) :
    (∃ q, (q = [] ∨ q ∈ ps) ∧ p = c :: q) ∨ p ∈ ps := by
  cases ps with
  | nil => exact Or.inl ⟨[], Or.inl rfl, List.mem_singleton.mp h⟩
  | cons q qs =>
    rcases List.mem_cons.mp h with rfl | h
    · exact Or.inl ⟨q, Or.inr (List.mem_cons_self ..), rfl⟩
    · exact Or.inr (List.mem_cons_of_mem q h)

/-- A piece of a text is free of separators and made of characters of the text. -/
theorem mem_of_mem_splitWhere {p : Char → Bool} {cs piece : List Char} (h : piece ∈ splitWhere p cs) :
    ∀ c ∈ piece, p c = false ∧ c ∈ cs := by
  induction cs generalizing piece with
  | nil =>
    rw [List.mem_singleton.mp h]
    simp
  | cons x cs ih =>
    have hrest : ∀ q ∈ splitWhere p cs, ∀ c ∈ q, p c = false ∧ c ∈ x :: cs :=
      fun q hq c hc => (ih hq c hc).imp_right (List.mem_cons_of_mem x)
    rw [splitWhere] at h
    split at h
    · rcases List.mem_cons.mp h with rfl | h
      · simp
      · exact hrest piece h
    · rename_i hx
      rcases mem_of_mem_consFirst h with ⟨q, hq, rfl⟩ | h
      · rw [List.forall_mem_cons]
        refine ⟨⟨by simpa using hx, List.mem_cons_self ..⟩, ?_⟩
        rcases hq with rfl | hq
        · simp
        · exact hrest q hq
      · exact hrest piece h

theorem splitWhere_of_forall {p : Char → Bool} {cs : List Char} (h : ∀ c ∈ cs, p c = false) :
    splitWhere p cs = [cs] := by
  induction cs with
  | nil => rfl
  | cons c cs ih =>
    rw [splitWhere, if_neg (by simp [h c (by simp)]), ih fun x hx => h x (List.mem_cons_of_mem c hx)]
    rfl

theorem splitWhere_append_cons {p : Char → Bool} {c : Char} (hc : p c = true) (cs ds : List Char) :
    splitWhere p (cs ++ c :: ds) = splitWhere p cs ++ splitWhere p ds := by
  induction cs with
  | nil => simp [splitWhere, hc]
  | cons x cs ih =>
    rw [List.cons_append, splitWhere, splitWhere, ih]
    split
    · rfl
    · obtain ⟨q, qs, hqs⟩ := List.exists_cons_of_ne_nil (splitWhere_ne_nil p cs)
      rw [hqs]
      rfl

/-- What has no separator goes to the first piece of what follows it. -/
theorem splitWhere_append {p : Char → Bool} {front cs q : List Char} {qs : List (List Char)}
    (hfront : ∀ c ∈ front, p c = false) (hcs : splitWhere p cs = q :: qs) :
    splitWhere p (front ++ cs) = (front ++ q) :: qs := by
  induction front with
  | nil => exact hcs
  | cons c front ih =>
    rw [List.forall_mem_cons] at hfront
    rw [List.cons_append, splitWhere, if_neg (by simp [hfront.1]), ih hfront.2]
    rfl

/-- Pieces that are joined with a separator are found again. -/
theorem splitWhere_intercalate {p : Char → Bool} {c : Char} (hc : p c = true) {ps : List (List Char)} (hne : ps ≠ [])
    (h : ∀ q ∈ ps, ∀ x ∈ q, p x = false) : splitWhere p ([c].intercalate ps) = ps := by
  induction ps with
  | nil => exact absurd rfl hne
  | cons q ps ih =>
    rw [List.forall_mem_cons] at h
    by_cases hps : ps = []
    · subst hps
      rw [List.intercalate_singleton, splitWhere_of_forall h.1]
    · obtain ⟨q', ps', rfl⟩ := List.exists_cons_of_ne_nil hps
      rw [List.intercalate_cons_cons, List.append_assoc, List.singleton_append, splitWhere_append_cons hc,
        splitWhere_of_forall h.1, ih hps h.2, List.singleton_append]

theorem splitAtChars_ne_nil (sep : List Char) (skip : Nat) (cs : List Char) : splitAtChars sep skip cs ≠ [] := by
  induction cs generalizing skip with
  | nil => cases skip <;> simp [splitAtChars]
  | cons c cs ih =>
    cases skip with
    | zero =>
      rw [splitAtChars]
      split
      · simp
      · cases splitAtChars sep 0 cs <;> simp [consFirst]
    | succ skip => exact ih skip

theorem intercalate_consFirst {sep : List Char} {c : Char} {ps : List (List Char)} (h : ps ≠ []) :
    sep.intercalate (consFirst c ps) = c :: sep.intercalate ps := by
  match ps with
  | [] => exact absurd rfl h
  | [p] => simp [consFirst]
  | p :: q :: ps => simp [consFirst, List.intercalate_cons_cons]

/-- Joined with a text in the place of the separators, the pieces begin with it where a separator is cut off. -/
theorem intercalate_splitAtChars_of_prefix {sep cs : List Char} {c : Char} (new : List Char) (h : sep <+: c :: cs) :
    new.intercalate (splitAtChars sep 0 (c :: cs)) = new ++ new.intercalate (splitAtChars sep (sep.length - 1) cs) := by
  obtain ⟨p, ps, hps⟩ := List.exists_cons_of_ne_nil (splitAtChars_ne_nil sep (sep.length - 1) cs)
  rw [splitAtChars, if_pos (List.isPrefixOf_iff_prefix.mpr h), hps, List.intercalate_cons_cons, List.nil_append]

theorem intercalate_splitAtChars_of_not_prefix {sep cs : List Char} {c : Char} (new : List Char)
    (h : ¬sep <+: c :: cs) :
    new.intercalate (splitAtChars sep 0 (c :: cs)) = c :: new.intercalate (splitAtChars sep 0 cs) := by
  rw [splitAtChars, if_neg (mt List.isPrefixOf_iff_prefix.mp h), intercalate_consFirst (splitAtChars_ne_nil sep 0 cs)]

theorem exists_intercalate_eq_append (sep : List Char) {q : List Char} {ps : List (List Char)} (h : ps.getLast? = some q) :
    ∃ a, sep.intercalate ps = a ++ q := by
  induction ps with
  | nil => cases h
  | cons p ps ih =>
    cases ps with
    | nil =>
      cases h
      exact ⟨[], by simp⟩
    | cons p' ps =>
      rw [List.getLast?_cons_cons] at h
      obtain ⟨a, ha⟩ := ih h
      exact ⟨p ++ sep ++ a, by rw [List.intercalate_cons_cons, ha, List.append_assoc, List.append_assoc, List.append_assoc]⟩

theorem mem_intercalate_iff {sep : List Char} {c : Char} {ps : List (List Char)} (h : c ∉ sep) :
    c ∈ sep.intercalate ps ↔ ∃ p ∈ ps, c ∈ p := by
  induction ps with
  | nil => simp
  | cons p ps ih =>
    cases ps with
    | nil => simp
    | cons p' ps =>
      rw [List.intercalate_cons_cons, List.mem_append, List.mem_append, ih]
      simp [h]

/-- The pieces of a text make it again when they are joined, apart from what was still to be skipped. -/
theorem intercalate_splitAtChars {sep : List Char} (hsep : sep ≠ []) (skip : Nat) (cs : List Char) :
    sep.intercalate (splitAtChars sep skip cs) = cs.drop skip := by
  induction cs generalizing skip with
  | nil => cases skip <;> simp [splitAtChars]
  | cons c cs ih =>
    cases skip with
    | zero =>
      rw [splitAtChars]
      split
      · rename_i hbegin
        obtain ⟨rest, hrest⟩ := List.isPrefixOf_iff_prefix.mp hbegin
        have hcs : cs.drop (sep.length - 1) = rest := by
          have hpos : 0 < sep.length := List.length_pos_iff.mpr hsep
          rw [← List.drop_succ_cons (a := c), Nat.sub_add_cancel hpos, ← hrest, List.drop_left]
        have hjoin := ih (sep.length - 1)
        obtain ⟨p, ps, hps⟩ := List.exists_cons_of_ne_nil (splitAtChars_ne_nil sep (sep.length - 1) cs)
        rw [hps] at hjoin ⊢
        rw [List.intercalate_cons_cons, hjoin, hcs, List.nil_append, hrest, List.drop_zero]
      · rw [intercalate_consFirst (splitAtChars_ne_nil sep 0 cs), ih 0]
        rfl
    | succ skip =>
      rw [splitAtChars, ih skip]
      rfl

/-! ### Words -/

theorem wordChars_append {blanks : List Char} (h : ∀ c ∈ blanks, isBlank c = true) (cs : List Char) :
    wordChars (blanks ++ cs) = wordChars cs := by
  induction blanks with
  | nil => rfl
  | cons c blanks ih =>
    rw [List.forall_mem_cons] at h
    rw [← ih h.2, wordChars, List.cons_append, splitWhere, if_pos h.1]
    rfl

/-- A word ends at the first blank. -/
theorem wordChars_word_append {word gap : List Char} (hne : word ≠ []) (hword : ∀ c ∈ word, isBlank c = false)
    (hgap : gap ≠ []) (hblank : ∀ c ∈ gap, isBlank c = true) (cs : List Char) :
    wordChars (word ++ (gap ++ cs)) = word :: wordChars cs := by
  obtain ⟨c, gap, rfl⟩ := List.exists_cons_of_ne_nil hgap
  rw [List.forall_mem_cons] at hblank
  rw [← wordChars_append hblank.2 cs, wordChars, List.cons_append, splitWhere_append_cons hblank.1,
    splitWhere_of_forall hword, List.singleton_append, List.filter_cons_of_pos (by simpa using hne), wordChars]

theorem wordChars_word {word blanks : List Char} (hne : word ≠ []) (hword : ∀ c ∈ word, isBlank c = false)
    (hblank : ∀ c ∈ blanks, isBlank c = true) : wordChars (word ++ blanks) = [word] := by
  cases blanks with
  | nil =>
    rw [List.append_nil, wordChars, splitWhere_of_forall hword]
    simpa using hne
  | cons c blanks =>
    have := wordChars_word_append hne hword (List.cons_ne_nil c blanks) hblank []
    rwa [List.append_nil] at this

/-! ### Lines -/

theorem lineChars_append {l rest : List Char} (hl : '\n' ∉ l) :
    lineChars (l ++ '\n' :: rest) = (l ++ ['\n']) :: lineChars rest := by
  induction l with
  | nil => simp [lineChars]
  | cons c l ih =>
    rw [List.mem_cons, not_or] at hl
    rw [List.cons_append, lineChars, if_neg (Ne.symm hl.1), ih hl.2]
    rfl

/-- The lines of a text: a line feed stands at the end of each, the last one may lack it, and none is empty. -/
inductive IsLines : List Char → List (List Char) → Prop
  | nil : IsLines [] []
  | last {l : List Char} (hne : l ≠ []) (hfeed : '\n' ∉ l) : IsLines l [l]
  | line {l cs : List Char} {ls : List (List Char)} (hfeed : '\n' ∉ l) (hrest : IsLines cs ls) :
      IsLines (l ++ '\n' :: cs) ((l ++ ['\n']) :: ls)

theorem isLines_lineChars (cs : List Char) : IsLines cs (lineChars cs) := by
  induction cs with
  | nil => exact .nil
  | cons c cs ih =>
    rw [lineChars]
    split
    · rename_i hc
      subst hc
      exact .line (l := []) (by simp) ih
    · rename_i hc
      have hnot : ∀ {l : List Char}, '\n' ∉ l → '\n' ∉ c :: l := by
        intro l hl
        simp [hl, Ne.symm hc]
      generalize lineChars cs = ls at ih
      cases ih with
      | nil => exact .last (by simp) (hnot (by simp))
      | last hne hfeed => exact .last (by simp) (hnot hfeed)
      | line hfeed hrest => exact .line (l := c :: _) (hnot hfeed) hrest

theorem isLines_lines (s : String) : IsLines s.toList ((lines s).map String.toList) := by
  have hlines : (lines s).map String.toList = lineChars s.toList := by simp [lines, Function.comp_def]
  rw [hlines]
  exact isLines_lineChars s.toList

theorem IsLines.eq {cs : List Char} {ls : List (List Char)} (h : IsLines cs ls) : lineChars cs = ls := by
  induction h with
  | nil => rfl
  | @last l hne hfeed =>
    have hlines := isLines_lineChars l
    generalize lineChars l = ls at hlines ⊢
    cases hlines with
    | nil => exact absurd rfl hne
    | last => rfl
    | line => simp at hfeed
  | line hfeed _ ih => rw [lineChars_append hfeed, ih]

end Bindery.Text
