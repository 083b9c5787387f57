import Bindery.Outline.Scanner
import Bindery.Proofs.Outline.Level
import Bindery.Proofs.Outline.Lines

/-! # What a scanner hands out

A scanner that reads its lines on request hands out, one after the other, what a scan of the same lines yields
(`answer?_ofLines`): the tokens, then the failure, if there is one, and nothing after that. The tokens that a
failing line has queued are never handed out. -/

namespace Bindery.Outline

variable {n number indent : Nat} {text raw : List Char} {ls : List Line}

/-! ### Logical lines -/

theorem logicalFrom_skipSilent (n : Nat) (ls : List Line) :
    logicalFrom n none ls = logicalFrom (skipSilent n ls).1 none (skipSilent n ls).2 := by
  induction ls generalizing n with
  | nil => rfl
  | cons l ls ih =>
    cases l with
    | none => rfl
    | some raw =>
      rw [skipSilent]
      split
      · rename_i hsilent
        rw [logicalFrom_silent hsilent, ih]
      · rfl

theorem isSilent_of_skipSilent {rest : List Line} (h : (skipSilent n ls).2 = some raw :: rest) : isSilent raw = false := by
  induction ls generalizing n with
  | nil => cases h
  | cons l ls ih =>
    cases l with
    | none => cases h
    | some raw' =>
      rw [skipSilent] at h
      split at h
      · exact ih h
      · rename_i hsilent
        cases h
        simpa using hsilent

/-- The logical lines after one, unless that one is not text. -/
def following (g : Nat × List Line × Option (List Char)) : List Logical :=
  match g with
  | (_, _, none) => []
  | (n, rest, some _) => logicalFrom n none rest

theorem gather_of_not_continued (h : isContinued text = false) (n : Nat) (ls : List Line) :
    gather n text ls = (n, ls, some text) := by
  rcases ls with _ | ⟨_ | raw, ls⟩ <;> simp [gather, h]

/-- A continued line is read to its end. -/
theorem logicalFrom_gather (h : isContinued text = true) (n number indent : Nat) (ls : List Line) :
    logicalFrom n (some (number, indent, text)) ls =
      .content number indent (gather n text ls).2.2 :: following (gather n text ls) := by
  induction ls generalizing n text with
  | nil => simp [logicalFrom, gather, h, following]
  | cons l ls ih =>
    cases l with
    | none => simp [logicalFrom, gather, h, following]
    | some raw =>
      rw [logicalFrom, gather, if_pos h]
      split
      · rename_i hcontinued
        exact ih hcontinued (n + 1)
      · rename_i hcontinued
        rw [gather_of_not_continued (by simpa using hcontinued), following]

theorem logicalFrom_of_not_silent (h : isSilent raw = false) (n : Nat) (rest : List Line) :
    logicalFrom n none (some raw :: rest) =
      .content (n + 1) (raw.takeWhile Text.isIndent).length (gather (n + 1) (Text.trimChars raw) rest).2.2 ::
        following (gather (n + 1) (Text.trimChars raw) rest) := by
  rw [logicalFrom]
  simp only [h, Bool.false_eq_true, if_false]
  split
  · rename_i hcontinued
    exact logicalFrom_gather hcontinued ..
  · rename_i hcontinued
    rw [gather_of_not_continued (by simpa using hcontinued), following]

theorem textTokens_ne_nil {ts : List Token} (h : textTokens text = some ts) : ts ≠ [] := by
  rcases textTokens_cases h with ⟨-, s, rfl⟩ | ⟨-, us, rfl, -⟩ <;> simp

/-! ### Columns -/

theorem closeTo_eq (column : Nat) (cols : List Nat) :
    closeTo column cols =
      if (cols.dropWhile (column < ·)).head? = some column then
        some ((cols.takeWhile (column < ·)).map fun _ => .dedent, cols.dropWhile (column < ·))
      else none := by
  induction cols with
  | nil => rfl
  | cons level below ih =>
    rw [closeTo, ih]
    by_cases hlt : column < level
    · rw [if_pos hlt, List.dropWhile_cons_of_pos (by simpa using hlt), List.takeWhile_cons_of_pos (by simpa using hlt)]
      split <;> rfl
    · rw [if_neg hlt, List.dropWhile_cons_of_neg (by simpa using hlt), List.takeWhile_cons_of_neg (by simpa using hlt)]
      simp only [List.head?_cons, Option.some.injEq, eq_comm (a := level), List.map_nil]

namespace Scanner
variable {s s' : Scanner} {e : Error}

/-- Moving to a column fails where no line can stand, and otherwise queues the tokens of the move. -/
theorem moveTo_eq (hcolumns : s.columns ≠ []) (number column : Nat) :
    match reindent column s.columns with
    | none => (s.moveTo number column).2 = .error (.badIndentation number)
    | some (moves, columns) =>
      s.moveTo number column = ({ s with columns, queue := s.queue ++ moves }, .ok ()) ∧ columns ≠ [] := by
  obtain ⟨top, below, hcons⟩ := List.exists_cons_of_ne_nil hcolumns
  rw [moveTo, hcons, reindent, List.headD_cons]
  by_cases hlt : top < column
  · simp [hlt]
  · simp only [hlt, if_false, closeTo_eq]
    by_cases hhead : ((top :: below).dropWhile (column < ·)).head? = some column
    · simp only [hhead, if_true, true_and]
      intro hnil
      rw [hnil] at hhead
      cases hhead
    · simp [hhead]

/-! ### Requests -/

/-- What a scanner has still to hand out. -/
def remaining (s : Scanner) : Scan :=
  if s.finished then ⟨s.queue, none⟩
  else (scanLogical s.name s.columns (logicalFrom s.line none s.rest)).after s.queue

/-- As long as lines are read, a block is open. -/
def Reading (s : Scanner) : Prop := s.finished = false → s.columns ≠ []

/-- Where no token is queued, the next logical line is read: its tokens are the first that remain, or its
failure is all that remains. -/
theorem remaining_advance (hqueue : s.queue = []) (hfinished : s.finished = false) (hreading : s.Reading) :
    match s.advance with
    | (s', .ok ()) => s'.queue ≠ [] ∧ s'.Reading ∧ s'.remaining = s.remaining
    | (_, .error e) => s.remaining = ⟨[], some e⟩ := by
  obtain ⟨name, rest, line, columns, queue, finished⟩ := s
  simp only at hqueue hfinished
  subst hqueue hfinished
  have hcolumns : columns ≠ [] := hreading rfl
  have hremaining : remaining ⟨name, rest, line, columns, [], false⟩ =
      scanLogical name columns (logicalFrom (skipSilent line rest).1 none (skipSilent line rest).2) := by
    rw [← logicalFrom_skipSilent]
    rfl
  rw [hremaining, advance]
  simp only
  rcases hskip : skipSilent line rest with ⟨n, _ | ⟨_ | raw, after⟩⟩
  · refine ⟨by simpa using hcolumns, fun h => (by cases h), ?_⟩
    simp [remaining, logicalFrom, scanLogical, List.map_const']
  · rfl
  · have hsilent : isSilent raw = false := isSilent_of_skipSilent (by rw [hskip])
    have hmove := moveTo_eq (s := ⟨name, after, n + 1, columns, [], false⟩) hcolumns (n + 1)
      (raw.takeWhile Text.isIndent).length
    simp only [logicalFrom_of_not_silent hsilent, scanLogical] at hmove ⊢
    rcases hmoves : reindent (raw.takeWhile Text.isIndent).length columns with _ | ⟨moves, columns'⟩ <;>
      rw [hmoves] at hmove
    · rcases hmoved : moveTo ⟨name, after, n + 1, columns, [], false⟩ (n + 1)
        (raw.takeWhile Text.isIndent).length with ⟨s', result⟩
      rw [hmoved] at hmove
      obtain rfl := hmove
      rfl
    · obtain ⟨hmoved, hcolumns'⟩ := hmove
      rw [hmoved]
      simp only
      rcases hgather : gather (n + 1) (Text.trimChars raw) after with ⟨k, after', _ | text⟩
      · rfl
      · simp only
        rcases htokens : textTokens text with _ | ts
        · rfl
        · simp only
          refine ⟨?_, fun _ => hcolumns', ?_⟩
          · simpa using fun _ : moves = [] => textTokens_ne_nil htokens
          · simp [remaining, following]

theorem pop_eq (s : Scanner) (hqueue : s.queue ≠ [] ∨ s.finished = true) :
    s.pop.2 = s.remaining.items.head? ∧ s.pop.1.remaining.items = s.remaining.items.tail := by
  obtain ⟨name, rest, line, columns, queue, finished⟩ := s
  cases queue with
  | nil =>
    obtain rfl : finished = true := by simpa using hqueue
    exact ⟨rfl, rfl⟩
  | cons t ts => cases finished <;> exact ⟨rfl, rfl⟩

theorem Reading.pop (h : s.Reading) : s.pop.1.Reading := by
  unfold Scanner.pop
  split <;> exact h

/-- A request gives the first thing that remains, and leaves the others. -/
theorem next_eq (h : s.Reading) :
    s.next.2 = s.remaining.items.head? ∧ s.next.1.remaining.items = s.remaining.items.tail ∧ s.next.1.Reading := by
  rw [next]
  split
  · rename_i hread
    rw [Bool.and_eq_true, List.isEmpty_iff, Bool.not_eq_true'] at hread
    have hadvance := remaining_advance hread.1 hread.2 h
    split <;> rename_i hresult <;> rw [hresult] at hadvance
    · rename_i s'
      obtain ⟨hqueue, hreading, hremaining⟩ := hadvance
      obtain ⟨hhead, htail⟩ := s'.pop_eq (Or.inl hqueue)
      rw [← hremaining]
      exact ⟨hhead, htail, hreading.pop⟩
    · simp only at hadvance
      rw [hadvance]
      exact ⟨rfl, rfl, fun h => by cases h⟩
  · rename_i hread
    obtain ⟨hhead, htail⟩ := s.pop_eq (by simpa [or_iff_not_imp_left] using hread)
    exact ⟨hhead, htail, h.pop⟩

theorem answer?_eq (h : s.Reading) (n : Nat) : s.answer? n = s.remaining.item? n := by
  induction n generalizing s with
  | zero => rw [answer?, (next_eq h).1, Scan.item?, List.head?_eq_getElem?]
  | succ n ih =>
    obtain ⟨-, htail, hreading⟩ := next_eq h
    rw [answer?, ih hreading, Scan.item?, htail, Scan.item?, List.getElem?_tail]

/-- Requests give what a scan of the lines yields. -/
theorem answer?_ofLines (name : String) (ls : List Line) (n : Nat) :
    (ofLines name ls).answer? n = (scanLines name ls).item? n :=
  answer?_eq (fun _ => List.cons_ne_nil 0 []) n

theorem answer?_ofText (s : String) (n : Nat) : (ofText s).answer? n = (scan s).item? n := answer?_ofLines "<input>" _ n

end Scanner
end Bindery.Outline
