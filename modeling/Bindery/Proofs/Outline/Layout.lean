import Bindery.Proofs.Outline.Lines
import Mathlib.Data.List.Forall2
import Mathlib.Order.Monotone.Basic

/-! # Texts laid out anew

What a text is scanned to does not depend on how it is laid out (`tokenize_relaid`). Logical lines may be moved to other
columns, as long as these keep their order and the outermost one stays; lines that continue others may be moved at will;
blank lines and comments may come and go between logical lines; carriage returns may stand at the ends of lines. Each
text then is scanned to the tokens of the other, or both fail for the same cause, on lines of their own. -/

namespace Bindery

/-- A failure without the line that it names. -/
def Error.withoutLine : Error → Error
  | .badIndentation _ => .badIndentation 0
  | .missingKey _ => .missingKey 0
  | e => e

namespace Outline

/-- Physical lines laid out anew, where `f` says to which column one moves that begins a logical line. The first line
continues a logical one if `continued` says so. -/
inductive LinesRelaid (f : Nat → Nat) : (continued : Bool) → List (List Char) → List (List Char) → Prop
  | nil (continued : Bool) : LinesRelaid f continued [] []
  /-- A blank line or a comment is inserted. -/
  | inserted {l : List Char} {ls ls' : List (List Char)} (hsilent : isSilent l = true)
      (hrest : LinesRelaid f false ls ls') : LinesRelaid f false ls (l :: ls')
  /-- A blank line or a comment is deleted. -/
  | deleted {l : List Char} {ls ls' : List (List Char)} (hsilent : isSilent l = true)
      (hrest : LinesRelaid f false ls ls') : LinesRelaid f false (l :: ls) ls'
  /-- A line begins a logical one; it is moved to the column that `f` gives. -/
  | begun {i : Nat} {text l l' : List Char} {ls ls' : List (List Char)}
      (hhead : ∀ c ∈ text.head?, Text.isIndent c = false) (hsilent : isSilent text = false)
      (hl : Shows i text l) (hl' : Shows (f i) text l')
      (hrest : LinesRelaid f (isContinued (Text.trimChars text)) ls ls') : LinesRelaid f false (l :: ls) (l' :: ls')
  /-- A line continues a logical one; it is moved to any column. -/
  | continued {i j : Nat} {text l l' : List Char} {ls ls' : List (List Char)}
      (hl : Shows i text l) (hl' : Shows j text l')
      (hrest : LinesRelaid f (isContinued (Text.trimChars text)) ls ls') : LinesRelaid f true (l :: ls) (l' :: ls')

/-- A text laid out anew. -/
def Relaid (f : Nat → Nat) (s s' : String) : Prop := LinesRelaid f false (physicalLines s) (physicalLines s')

variable {f : Nat → Nat}

/-! ### Logical lines -/

/-- Logical lines of the same text of which the second stands at the column to which `f` moves the first. -/
inductive Logical.Moved (f : Nat → Nat) : Logical → Logical → Prop
  | content (m n i : Nat) (text : List Char) : Moved f (.content m i (some text)) (.content n (f i) (some text))

/-- Lines that are still continued, if any are, with the same text. -/
inductive Pending (f : Nat → Nat) : Bool → Option (Nat × Nat × List Char) → Option (Nat × Nat × List Char) → Prop
  | none : Pending f false none none
  | some (m n i : Nat) (text : List Char) : Pending f true (some (m, i, text)) (some (n, f i, text))

theorem LinesRelaid.logicalFrom {continued : Bool} {ls ls' : List (List Char)} (h : LinesRelaid f continued ls ls')
    {pending pending' : Option (Nat × Nat × List Char)} (hpending : Pending f continued pending pending') (m n : Nat) :
    List.Forall₂ (Logical.Moved f) (Outline.logicalFrom m pending (ls.map some))
      (Outline.logicalFrom n pending' (ls'.map some)) := by
  -- The two runs number their lines on their own: a silent line lets one of them go on alone.
  induction h generalizing pending pending' m n with
  | nil continued =>
    cases hpending with
    | none => exact .nil
    | some a b i text => exact .cons (.content ..) .nil
  | inserted hsilent _ ih =>
    cases hpending
    rw [List.map_cons, logicalFrom_silent hsilent]
    exact ih .none m (n + 1)
  | deleted hsilent _ ih =>
    cases hpending
    rw [List.map_cons, logicalFrom_silent hsilent]
    exact ih .none (m + 1) n
  | @begun i text l l' ls ls' hhead hsilent hl hl' _ ih =>
    cases hpending
    rw [List.map_cons, List.map_cons, logicalFrom_begin hl hhead hsilent, logicalFrom_begin hl' hhead hsilent]
    cases hcontinued : isContinued (Text.trimChars text) with
    | true =>
      rw [hcontinued] at ih
      exact ih (.some ..) (m + 1) (n + 1)
    | false =>
      rw [hcontinued] at ih
      exact .cons (.content ..) (ih .none (m + 1) (n + 1))
  | @continued i j text l l' ls ls' hl hl' _ ih =>
    cases hpending
    rw [List.map_cons, List.map_cons, logicalFrom_continue hl, logicalFrom_continue hl']
    cases hcontinued : isContinued (Text.trimChars text) with
    | true =>
      rw [hcontinued] at ih
      exact ih (.some ..) (m + 1) (n + 1)
    | false =>
      rw [hcontinued] at ih
      exact .cons (.content ..) (ih .none (m + 1) (n + 1))

/-- The logical lines of a text laid out anew are those of the text, moved. -/
theorem Relaid.logicalLines {s s' : String} (h : Relaid f s s') :
    List.Forall₂ (Logical.Moved f) (logicalLines (Line.ofText s)) (logicalLines (Line.ofText s')) := by
  rw [logicalLines_ofText, logicalLines_ofText]
  exact LinesRelaid.logicalFrom h .none 0 0

/-! ### Columns -/

theorem closeTo_map (hf : StrictMono f) (i : Nat) (cols : List Nat) :
    closeTo (f i) (cols.map f) = (closeTo i cols).map fun (ts, open_) => (ts, open_.map f) := by
  induction cols with
  | nil => rfl
  | cons level below ih =>
    rw [List.map_cons, closeTo, closeTo, ih]
    simp only [hf.lt_iff_lt, hf.injective.eq_iff]
    split
    · simp only [Option.map_map]
      rfl
    · split <;> rfl

/-- Columns that are moved without changing their order open and close the same blocks. -/
theorem reindent_map (hf : StrictMono f) (i : Nat) (cols : List Nat) :
    reindent (f i) (cols.map f) = (reindent i cols).map fun (ts, open_) => (ts, open_.map f) := by
  cases cols with
  | nil => rfl
  | cons top below =>
    have hclose := closeTo_map hf i (top :: below)
    rw [List.map_cons] at hclose ⊢
    rw [reindent, reindent, hclose]
    simp only [hf.lt_iff_lt]
    split <;> rfl

/-! ### Scanning -/

/-- A scan without the line that its failure names. -/
def Scan.withoutLine (s : Scan) : Scan := ⟨s.tokens, s.failure.map Error.withoutLine⟩

theorem Scan.withoutLine_after (ts : List Token) (s : Scan) : (s.after ts).withoutLine = s.withoutLine.after ts := rfl

theorem Scan.result_withoutLine (s : Scan) : s.withoutLine.result = s.result.mapError Error.withoutLine := by
  obtain ⟨tokens, _ | e⟩ := s <;> rfl

/-- A logical line that is moved along with the open columns gives the same tokens. -/
theorem scanLogical_moved (hf : StrictMono f) (name : String) {ls ls' : List Logical}
    (h : List.Forall₂ (Logical.Moved f) ls ls') (cols : List Nat) :
    (scanLogical name (cols.map f) ls').withoutLine = (scanLogical name cols ls).withoutLine := by
  induction h generalizing cols with
  | nil => rw [scanLogical, scanLogical, List.length_map]
  | @cons l l' ls ls' hmoved _ ih =>
    obtain ⟨m, n, i, text⟩ := hmoved
    rw [scanLogical, scanLogical, reindent_map hf]
    rcases reindent i cols with _ | ⟨moves, cols'⟩
    · rfl
    · rcases htokens : textTokens text with _ | ts
      · simp only [Option.map_some, htokens]
        rfl
      · simp only [Option.map_some, htokens, Scan.withoutLine_after, ih]

/-- A text laid out anew is scanned to the same tokens, and fails, if it does, for the same cause. -/
theorem scan_relaid (hf : StrictMono f) (hzero : f 0 = 0) {s s' : String} (h : Relaid f s s') :
    (scan s').withoutLine = (scan s).withoutLine := by
  have hmoved := scanLogical_moved hf "<input>" h.logicalLines [0]
  rwa [List.map_singleton, hzero] at hmoved

theorem tokenize_relaid (hf : StrictMono f) (hzero : f 0 = 0) {s s' : String} (h : Relaid f s s') :
    (tokenize s').mapError Error.withoutLine = (tokenize s).mapError Error.withoutLine := by
  rw [tokenize, tokenize, ← Scan.result_withoutLine, ← Scan.result_withoutLine, scan_relaid hf hzero h]

/-- A blank line is inserted, a comment deleted, a continuation moved, the lines get other ends, and what two tabs and a
space have indented is indented by six spaces. -/
theorem tokenize_relaid_doubled :
    StrictMono (2 * ·) ∧
      Relaid (2 * ·) "f:\n\tA: x \\\n y\n# end\n\t\t B:\n" "f:\r\n\n  A: x \\\r\n\t\ty\r\n      B:" ∧
      (tokenize "f:\r\n\n  A: x \\\r\n\t\ty\r\n      B:").mapError Error.withoutLine =
        (tokenize "f:\n\tA: x \\\n y\n# end\n\t\t B:\n").mapError Error.withoutLine := by
  have hdouble : StrictMono (2 * · : Nat → Nat) := fun i j hlt => Nat.mul_lt_mul_of_pos_left hlt (by decide)
  have hrelaid : Relaid (2 * ·) "f:\n\tA: x \\\n y\n# end\n\t\t B:\n"
      "f:\r\n\n  A: x \\\r\n\t\ty\r\n      B:" := by
    have hf := @Shows.intro 0 ['f', ':'] [] [] (List.all_eq_true.mp rfl) rfl (List.all_eq_true.mp rfl)
    have hf' := @Shows.intro 0 ['f', ':'] [] ['\r'] (List.all_eq_true.mp rfl) rfl (List.all_eq_true.mp rfl)
    have hA := @Shows.intro 1 ['A', ':', ' ', 'x', ' ', '\\'] ['\t'] [] (List.all_eq_true.mp rfl) rfl (List.all_eq_true.mp rfl)
    have hA' := @Shows.intro 2 ['A', ':', ' ', 'x', ' ', '\\'] [' ', ' '] ['\r'] (List.all_eq_true.mp rfl) rfl (List.all_eq_true.mp rfl)
    have hy := @Shows.intro 1 ['y'] [' '] [] (List.all_eq_true.mp rfl) rfl (List.all_eq_true.mp rfl)
    have hy' := @Shows.intro 2 ['y'] ['\t', '\t'] ['\r'] (List.all_eq_true.mp rfl) rfl (List.all_eq_true.mp rfl)
    have hB := @Shows.intro 3 ['B', ':'] ['\t', '\t', ' '] [] (List.all_eq_true.mp rfl) rfl (List.all_eq_true.mp rfl)
    have hB' := @Shows.intro 6 ['B', ':'] [' ', ' ', ' ', ' ', ' ', ' '] [] (List.all_eq_true.mp rfl) rfl (List.all_eq_true.mp rfl)
    exact .begun (by rintro c ⟨⟩; rfl) rfl hf hf' (.inserted rfl (.begun (by rintro c ⟨⟩; rfl) rfl hA hA' (.continued hy hy'
      (.deleted rfl (.begun (by rintro c ⟨⟩; rfl) rfl hB hB' (.deleted rfl (.nil false)))))))
  exact ⟨hdouble, hrelaid, tokenize_relaid hdouble rfl hrelaid⟩

end Outline
end Bindery
