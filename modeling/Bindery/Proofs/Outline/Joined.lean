import Bindery.Outline.Scan
import Bindery.Proofs.Text.Pieces

/-! # Texts with joiners

A logical line is made of the trimmed texts of its physical lines, with a joiner between neighbours. So a line
feed in it always begins a joiner, and no blank follows the joiner (`Joined`). This holds of every part of the
line that is not cut off inside of a joiner, and where such a part is split at its joiners, no piece has a line
feed or begins with a blank. -/

namespace Bindery.Outline

/-- A text that does not begin with a blank, unless with a joiner. -/
def Opens (cs : List Char) : Prop := ∀ c ∈ cs.head?, c = '\n' ∨ Text.isBlank c = false

/-- Every line feed of a text begins a joiner, and no other blank follows the joiner. -/
def Joined : List Char → Prop
  | [] => True
  | c :: cs => (c = '\n' → ∃ rest, cs = ' ' :: ' ' :: rest ∧ Opens rest) ∧ Joined cs

variable {a b cs raw : List Char}

theorem opens_of_head (h : ∀ c ∈ cs.head?, Text.isBlank c = false) : Opens cs := fun c hc => Or.inr (h c hc)

theorem Opens.left (h : Opens (a ++ b)) : Opens a := by
  cases a with
  | nil => intro c hc; cases hc
  | cons x a => exact h

theorem Opens.head_of_begin (h : Opens cs) (hbegin : a <+: cs) (ha : '\n' ∉ a) :
    ∀ c ∈ a.head?, Text.isBlank c = false := by
  obtain ⟨rest, rfl⟩ := hbegin
  cases a with
  | nil => intro c hc; cases hc
  | cons x a =>
    intro c hc
    cases hc
    rcases h x rfl with rfl | hblank
    · exact absurd (List.mem_cons_self ..) ha
    · exact hblank

theorem joined_of_not_mem (h : '\n' ∉ cs) : Joined cs := by
  induction cs with
  | nil => trivial
  | cons c cs ih =>
    rw [List.mem_cons, not_or] at h
    exact ⟨fun hc => absurd hc.symm h.1, ih h.2⟩

theorem Joined.right (h : Joined (a ++ b)) : Joined b := by
  induction a with
  | nil => exact h
  | cons c a ih => exact ih h.2

/-- A beginning is joined, unless it ends inside of a joiner. -/
theorem Joined.left (h : Joined (a ++ b))
    (hcut : (∀ c ∈ a.getLast?, Text.isBlank c = false) ∨ b.head? ≠ some ' ') : Joined a := by
  induction a with
  | nil => trivial
  | cons x a ih =>
    obtain ⟨hx, h⟩ := h
    refine ⟨fun hfeed => ?_, ih h (hcut.imp_left fun hlast c hc => hlast c ?_)⟩
    · obtain ⟨rest, hrest, hopens⟩ := hx hfeed
      subst hfeed
      match a with
      | [] => simp [show b = ' ' :: ' ' :: rest from hrest, Text.isBlank] at hcut
      | [y] =>
        cases hrest
        simp [Text.isBlank] at hcut
      | y :: z :: a =>
        cases hrest
        exact ⟨a, rfl, hopens.left⟩
    · cases a with
      | nil => cases hc
      | cons y a => rwa [List.getLast?_cons_cons]

theorem Joined.append (ha : Joined a) (hb : Joined b) (hopens : Opens b) : Joined (a ++ b) := by
  induction a with
  | nil => exact hb
  | cons x a ih =>
    refine ⟨fun hfeed => ?_, ih ha.2⟩
    obtain ⟨rest, rfl, hrest⟩ := ha.1 hfeed
    refine ⟨rest ++ b, rfl, ?_⟩
    cases rest with
    | nil => exact hopens
    | cons c rest => exact hrest

theorem joined_joiner (hb : Joined b) (hopens : Opens b) : Joined (joiner ++ b) :=
  ⟨fun _ => ⟨b, rfl, hopens⟩, by simp, by simp, hb⟩

/-- The pieces between the joiners of a text have no line feed, and none but the first can begin with a blank. -/
theorem Joined.splitAtChars : ∀ {cs : List Char}, Joined cs → ∃ p ps, Text.splitAtChars joiner 0 cs = p :: ps ∧
    '\n' ∉ p ∧ p <+: cs ∧ ∀ q ∈ ps, '\n' ∉ q ∧ ∀ c ∈ q.head?, Text.isBlank c = false
  | [], _ => ⟨[], [], rfl, by simp, by simp, by simp⟩
  | c :: cs, h => by
    rw [Text.splitAtChars]
    by_cases hc : c = '\n'
    · obtain ⟨rest, rfl, hopens⟩ := h.1 hc
      obtain ⟨p, ps, hsplit, hp, hbegin, hps⟩ := Joined.splitAtChars h.2.2.2
      subst hc
      refine ⟨[], p :: ps, ?_, by simp, by simp,
        List.forall_mem_cons.mpr ⟨⟨hp, hopens.head_of_begin hbegin hp⟩, hps⟩⟩
      rw [if_pos (by simp [joiner]), ← hsplit]
      rfl
    · obtain ⟨p, ps, hsplit, hp, hbegin, hps⟩ := Joined.splitAtChars h.2
      refine ⟨c :: p, ps, ?_, by simp [hp, Ne.symm hc], List.cons_prefix_cons.mpr ⟨rfl, hbegin⟩, hps⟩
      rw [if_neg (by simp [joiner, Ne.symm hc]), hsplit, Text.consFirst]
termination_by cs => cs.length

/-! ### What is gathered from lines -/

/-- A text as reading gathers it: it is joined, does not begin with a blank, and ends with one only if it ends
with a joiner. -/
structure Gathered (cs : List Char) : Prop where
  joined : Joined cs
  opens : Opens cs
  ends : ∀ c ∈ cs.getLast?, Text.isBlank c = false ∨ joiner <:+ cs

/-- No piece of a gathered text has a line feed or begins with a blank. -/
theorem Gathered.splitAtChars (h : Gathered cs) :
    ∀ p ∈ Text.splitAtChars joiner 0 cs, '\n' ∉ p ∧ ∀ c ∈ p.head?, Text.isBlank c = false := by
  obtain ⟨p, ps, hsplit, hp, hbegin, hps⟩ := h.joined.splitAtChars
  rw [hsplit, List.forall_mem_cons]
  exact ⟨⟨hp, h.opens.head_of_begin hbegin hp⟩, hps⟩

theorem Joined.gathered_trimChars (h : Joined cs) : Gathered (Text.trimChars cs) := by
  have htrim := Text.trimmed_trimChars cs
  refine ⟨?_, opens_of_head htrim.head, fun c hc => Or.inl (htrim.last c hc)⟩
  obtain ⟨start, hstart⟩ := List.dropWhile_suffix Text.isBlank (l := cs)
  obtain ⟨rest, hrest⟩ := Text.dropEndWhile_prefix_self Text.isBlank (cs.dropWhile Text.isBlank)
  rw [← hstart, ← hrest] at h
  exact h.right.left (Or.inl htrim.last)

theorem gathered_trimChars (h : '\n' ∉ raw) : Gathered (Text.trimChars raw) :=
  (joined_of_not_mem h).gathered_trimChars

/-- A continued text stays gathered with its continuation. -/
theorem Gathered.continueWith (h : Gathered cs) (hcontinued : isContinued cs = true) (hraw : '\n' ∉ raw) :
    Gathered (continueWith cs raw) := by
  obtain ⟨text, rfl⟩ : ∃ text, cs = text ++ ['\\'] := List.getLast?_eq_some_iff.mp (by simpa [isContinued] using hcontinued)
  have hnext := gathered_trimChars hraw
  rw [Outline.continueWith, List.dropLast_concat, List.append_assoc]
  have hjoined : Joined text := h.joined.left (Or.inr (by simp))
  refine ⟨hjoined.append (joined_joiner hnext.joined hnext.opens) (fun c hc => Or.inl ?_), ?_, fun c hc => ?_⟩
  · exact (Option.some.inj hc).symm
  · cases text with
    | nil => exact fun c hc => Or.inl (Option.some.inj hc).symm
    | cons x text => exact h.opens
  · -- Where the next line is blank, the text ends with the joiner.
    cases hblank : Text.trimChars raw with
    | nil => exact Or.inr ⟨text, by simp⟩
    | cons x rest =>
      rw [hblank, ← List.append_assoc, List.getLast?_append, List.getLast?_cons, Option.some_or] at hc
      exact Or.inl ((Text.trimmed_trimChars raw).last c (by rw [hblank, List.getLast?_cons]; exact hc))

end Bindery.Outline
