import Bindery.Template.Placeholder
import Mathlib.Data.List.Infix
import Mathlib.Data.List.TakeWhile

/-! # Marks in a template

The form of a mark is said without the scan that finds it (`Mark.Formed`): the scan finds at the start of a text exactly
the mark that stands there (`Mark.atStart?_eq_some_iff`), and there is one at most. A template is cut at its marks from
the left: the plain text before a mark is such that no mark begins in it, and so is the text after the last one
(`Cut`). Every text can be cut, in one way (`exists_cut`, `Cut.unique`). -/

namespace Bindery

namespace Text

theorem digitValue?_eq_some_iff {c : Char} {n : Nat} :
    digitValue? c = some n ↔ c.isDigit ∧ c.toNat - '0'.toNat = n := by
  have hdigit : ('0' ≤ c ∧ c ≤ '9') ↔ c.isDigit := by
    rw [Char.isDigit, Bool.and_eq_true, decide_eq_true_iff, decide_eq_true_iff]
    exact Iff.rfl
  rw [digitValue?, Option.ite_none_right_eq_some, hdigit, Option.some.injEq]

/-- Digits write a number if all are ASCII, the number that they are in base ten. -/
theorem decimalValue?_eq_some_iff {cs : List Char} {n : Nat} :
    decimalValue? cs = some n ↔ (∀ c ∈ cs, c.isDigit) ∧ Nat.ofDigitChars 10 cs 0 = n := by
  suffices h : ∀ m, cs.foldlM (fun n c => (digitValue? c).map (n * 10 + ·)) m = some n ↔
      (∀ c ∈ cs, c.isDigit) ∧ Nat.ofDigitChars 10 cs m = n from h 0
  induction cs with
  | nil => simp [Nat.ofDigitChars]
  | cons c cs ih =>
    intro m
    rw [List.foldlM_cons, List.forall_mem_cons]
    cases hc : digitValue? c with
    | none =>
      have hdigit : ¬c.isDigit := fun h => by
        rw [digitValue?_eq_some_iff.mpr ⟨h, rfl⟩] at hc
        cases hc
      simp [hdigit]
    | some d =>
      obtain ⟨hdigit, rfl⟩ := digitValue?_eq_some_iff.mp hc
      rw [Option.map_some, Option.bind_eq_bind, Option.bind_some, ih]
      simp [hdigit, Nat.ofDigitChars_cons, Nat.mul_comm]

end Text

namespace Template
variable {cs plain rest tail : List Char} {c : Char} {m : Mark} {cuts : List (List Char × Mark)}

/-! ### The form of a mark -/

/-- The form of a mark: the letter `T` alone, or `C` or `I` with digits of any script. -/
inductive Mark.Formed : Mark → Prop
  | type : Formed ⟨'T', []⟩
  | name {letter : Char} {digits : List Char} (hletter : letter = 'C' ∨ letter = 'I')
      (hdigits : ∀ c ∈ digits, Text.isDecimal c) : Formed ⟨letter, digits⟩

/-- Whether a text begins with a mark. -/
def Begins (cs : List Char) : Prop := ∃ m : Mark, m.Formed ∧ m.chars <+: cs

theorem Mark.atStart?_name {letter : Char} (h : letter = 'C' ∨ letter = 'I') (rest : List Char) :
    atStart? ('%' :: letter :: rest) =
      match rest.dropWhile Text.isDecimal with
      | '%' :: _ => some ⟨letter, rest.takeWhile Text.isDecimal⟩
      | _ => none := by
  rcases h with rfl | rfl <;> rfl

theorem Mark.atStart?_chars (h : m.Formed) (rest : List Char) : atStart? (m.chars ++ rest) = some m := by
  cases h with
  | type => rfl
  | @name letter digits hletter hdigits =>
    have hpercent : Text.isDecimal '%' = false := by decide
    have hchars : chars ⟨letter, digits⟩ ++ rest = '%' :: letter :: (digits ++ '%' :: rest) := by simp [chars]
    rw [hchars, atStart?_name hletter, List.dropWhile_append_of_pos hdigits, List.takeWhile_append_of_pos hdigits]
    simp [hpercent]

/-- What is found at the start of a text is the mark that stands there. -/
theorem Mark.atStart?_eq_some_iff : atStart? cs = some m ↔ m.Formed ∧ m.chars <+: cs := by
  constructor
  · intro h
    unfold atStart? at h
    split at h
    · cases h
      exact ⟨.type, _, rfl⟩
    · rename_i letter rest _
      split at h
      · rename_i hletter
        split at h
        · rename_i tail hdrop
          cases h
          refine ⟨.name hletter fun c hc => List.mem_takeWhile_imp hc, tail, ?_⟩
          have hrest := List.takeWhile_append_dropWhile (p := Text.isDecimal) (l := rest)
          rw [hdrop] at hrest
          simp [chars, hrest]
        · cases h
      · cases h
    · cases h
  · rintro ⟨hm, rest, rfl⟩
    exact atStart?_chars hm rest

theorem Mark.eq_of_prefix {m' : Mark} (hm : m.Formed) (hm' : m'.Formed) (h : m.chars <+: cs) (h' : m'.chars <+: cs) :
    m = m' :=
  Option.some.inj ((atStart?_eq_some_iff.mpr ⟨hm, h⟩).symm.trans (atStart?_eq_some_iff.mpr ⟨hm', h'⟩))

theorem begins_chars (h : m.Formed) (rest : List Char) : Begins (m.chars ++ rest) := ⟨m, h, List.prefix_append _ _⟩

theorem Mark.atStart?_eq_none_iff : Mark.atStart? cs = none ↔ ¬Begins cs := by
  rw [Option.eq_none_iff_forall_ne_some]
  simp only [ne_eq, atStart?_eq_some_iff, Begins, not_exists]

/-! ### Cutting a template -/

/-- A text cut at its marks, each with the plain text before it, and the plain text at the end. -/
inductive Cut : List Char → List (List Char × Mark) → List Char → Prop
  | last {cs : List Char} (h : ∀ rest, rest <:+ cs → ¬Begins rest) : Cut cs [] cs
  | mark {plain rest tail : List Char} {m : Mark} {cuts : List (List Char × Mark)}
      (hplain : ∀ front, front <:+ plain → front ≠ [] → ¬Begins (front ++ (m.chars ++ rest))) (hm : m.Formed)
      (h : Cut rest cuts tail) : Cut (plain ++ (m.chars ++ rest)) ((plain, m) :: cuts) tail

theorem Cut.written (h : Cut cs cuts tail) : cs = (cuts.flatMap fun cut => cut.1 ++ cut.2.chars) ++ tail := by
  induction h with
  | last => rfl
  | mark _ _ _ ih => rw [List.flatMap_cons, List.append_assoc, List.append_assoc, ← ih]

theorem Cut.formed (h : Cut cs cuts tail) : ∀ cut ∈ cuts, cut.2.Formed := by
  induction h with
  | last => nofun
  | mark _ hm _ ih => exact List.forall_mem_cons.mpr ⟨hm, ih⟩

theorem exists_cut_cons (hc : ¬Begins (c :: cs)) (h : Cut cs cuts tail) : ∃ cuts' tail', Cut (c :: cs) cuts' tail' := by
  cases h with
  | last h =>
    refine ⟨[], c :: cs, .last fun rest hrest => ?_⟩
    rcases List.suffix_cons_iff.mp hrest with rfl | hrest
    · exact hc
    · exact h rest hrest
  | @mark plain rest _ m cuts hplain hm h =>
    refine ⟨(c :: plain, m) :: cuts, tail, @Cut.mark (c :: plain) _ _ _ _ (fun front hfront hne => ?_) hm h⟩
    rcases List.suffix_cons_iff.mp hfront with rfl | hfront
    · exact hc
    · exact hplain front hfront hne

theorem exists_cut (cs : List Char) : ∃ cuts tail, Cut cs cuts tail := by
  induction hn : cs.length using Nat.strong_induction_on generalizing cs with
  | _ n ih =>
    subst hn
    match cs with
    | [] =>
      refine ⟨[], [], .last fun rest hrest => ?_⟩
      rw [List.suffix_nil.mp hrest]
      rintro ⟨m, -, hprefix⟩
      exact List.cons_ne_nil _ _ (List.prefix_nil.mp hprefix)
    | c :: cs =>
      by_cases hc : Begins (c :: cs)
      · obtain ⟨m, hm, rest, hrest⟩ := hc
        have hlength : rest.length < (c :: cs).length := by
          rw [← hrest, List.length_append]
          exact Nat.lt_add_of_pos_left (List.length_pos_iff.mpr (List.cons_ne_nil _ _))
        obtain ⟨cuts, tail, h⟩ := ih _ hlength rest rfl
        refine ⟨([], m) :: cuts, tail, hrest ▸ @Cut.mark [] _ _ _ _ (fun front hfront hne => ?_) hm h⟩
        exact absurd (List.suffix_nil.mp hfront) hne
      · obtain ⟨cuts, tail, h⟩ := ih _ (Nat.lt_succ_self _) cs rfl
        exact exists_cut_cons hc h

/-- Plain texts in which no mark begins end at the same place. -/
theorem Cut.plain_eq {plain' rest' : List Char} {m' : Mark} (hm : m.Formed)
    (hplain' : ∀ front, front <:+ plain' → front ≠ [] → ¬Begins (front ++ (m'.chars ++ rest')))
    (h : plain ++ (m.chars ++ rest) = plain' ++ (m'.chars ++ rest')) (hlength : plain.length ≤ plain'.length) :
    plain = plain' := by
  obtain ⟨front, rfl⟩ := List.prefix_of_prefix_length_le (h ▸ List.prefix_append _ _) (List.prefix_append _ _) hlength
  rw [List.append_assoc, List.append_cancel_left_eq] at h
  by_contra hne
  have hfront : front ≠ [] := by
    rintro rfl
    exact hne (List.append_nil plain).symm
  exact hplain' front (List.suffix_append plain front) hfront (h ▸ begins_chars hm rest)

theorem Cut.unique {cuts' : List (List Char × Mark)} {tail' : List Char} (h : Cut cs cuts tail)
    (h' : Cut cs cuts' tail') : cuts' = cuts ∧ tail' = tail := by
  induction h generalizing cuts' tail' with
  | last hnone =>
    cases h' with
    | last => exact ⟨rfl, rfl⟩
    | mark _ hm _ => exact absurd (begins_chars hm _) (hnone _ (List.suffix_append _ _))
  | @mark plain rest tail m cuts hplain hm h ih =>
    generalize heq : plain ++ (m.chars ++ rest) = cs at h'
    cases h' with
    | last hnone => exact absurd (begins_chars hm _) (hnone _ (heq ▸ List.suffix_append _ _))
    | @mark plain' rest' _ m' cuts' hplain' hm' h' =>
      have hsame : plain = plain' := by
        rcases Nat.le_total plain.length plain'.length with hle | hle
        · exact plain_eq hm hplain' heq hle
        · exact (plain_eq hm' hplain heq.symm hle).symm
      subst hsame
      have hmarks := List.append_cancel_left heq
      obtain rfl : m = m' := Mark.eq_of_prefix hm hm' (List.prefix_append _ rest) (hmarks.symm ▸ List.prefix_append _ _)
      obtain rfl := List.append_cancel_left hmarks
      obtain ⟨rfl, rfl⟩ := ih h'
      exact ⟨rfl, rfl⟩

/-! ### The pieces of a template -/

theorem piecesFrom_eq_drop (skip : Nat) (cs : List Char) : piecesFrom skip cs = piecesFrom 0 (cs.drop skip) := by
  induction cs generalizing skip with
  | nil => cases skip <;> rfl
  | cons c cs ih =>
    cases skip with
    | zero => rfl
    | succ skip => rw [piecesFrom, ih, List.drop_succ_cons]

theorem piecesFrom_chars (h : m.Formed) (rest : List Char) :
    piecesFrom 0 (m.chars ++ rest) = .mark m :: piecesFrom 0 rest := by
  have hstart := Mark.atStart?_chars h rest
  have hchars : m.chars ++ rest = '%' :: (m.letter :: (m.digits ++ ['%']) ++ rest) := rfl
  rw [hchars] at hstart ⊢
  rw [piecesFrom, hstart]
  dsimp only
  rw [piecesFrom_eq_drop]
  exact congrArg _ (congrArg _ List.drop_left)

theorem piecesFrom_plain (h : ∀ front, front <:+ plain → front ≠ [] → ¬Begins (front ++ rest)) :
    piecesFrom 0 (plain ++ rest) = plain.map .plain ++ piecesFrom 0 rest := by
  induction plain with
  | nil => rfl
  | cons c plain ih =>
    have hnone := Mark.atStart?_eq_none_iff.mpr (h (c :: plain) List.suffix_rfl (List.cons_ne_nil _ _))
    rw [List.cons_append] at hnone ⊢
    rw [piecesFrom, hnone, List.map_cons, List.cons_append,
      ih fun front hfront => h front (hfront.trans (List.suffix_cons c plain))]

/-- The pieces of a text follow its cut. -/
theorem piecesFrom_cut (h : Cut cs cuts tail) :
    piecesFrom 0 cs = (cuts.flatMap fun cut => cut.1.map .plain ++ [.mark cut.2]) ++ tail.map .plain := by
  induction h with
  | @last cs hnone =>
    have hpieces : piecesFrom 0 (cs ++ []) = cs.map .plain ++ piecesFrom 0 [] := by
      refine piecesFrom_plain fun front hfront _ => ?_
      rw [List.append_nil]
      exact hnone front hfront
    simpa [piecesFrom] using hpieces
  | mark hplain hm _ ih =>
    rw [piecesFrom_plain hplain, piecesFrom_chars hm, ih]
    simp

end Template
end Bindery
