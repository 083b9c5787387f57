import Bindery.Proofs.Outline.Requests

/-! # Scans that fail at a line

A scan that fails at a logical line is cut off in front of it: it yields the tokens of the lines before, as a scan of
these alone does, but not the tokens by which such a scan closes the blocks that are open at its end. Then it
yields its failure, and nothing more (`cutAt_of_answer`). -/

namespace Bindery

/-- The line that a failure of scanning names. -/
def Error.line? : Error → Option Nat
  | .badIndentation n | .missingKey n => some n
  | _ => none

namespace Text
variable {cs : List Char} {ls : List (List Char)}

theorem IsLines.take (h : IsLines cs ls) (k : Nat) : IsLines (ls.take k).flatten (ls.take k) := by
  induction h generalizing k with
  | nil =>
    rw [List.take_nil]
    exact .nil
  | last hne hfeed =>
    cases k with
    | zero => exact .nil
    | succ k => simpa using IsLines.last hne hfeed
  | line hfeed hrest ih =>
    cases k with
    | zero => exact .nil
    | succ k => simpa using IsLines.line hfeed (ih k)

end Text

namespace Outline
variable {name : String} {cols : List Nat} {ls before after : List Logical} {e : Error} {m n i : Nat}

/-! ### Logical lines -/

/-- The columns that are open behind logical lines, the innermost first. -/
def openColumns (cols : List Nat) : List Logical → List Nat
  | [] => cols
  | .unreadable :: _ => cols
  | .content _ indent _ :: rest =>
    match reindent indent cols with
    | none => cols
    | some (_, cols) => openColumns cols rest

/-- A scan that fails at a logical line yields what a scan of the lines before yields up to its end. -/
theorem scanLogical_before (h : (scanLogical name cols ls).failure = some e) (hline : e.line? = some n) :
    ∃ before i text after, ls = before ++ .content n i text :: after ∧
      scanLogical name cols before =
        ⟨(scanLogical name cols ls).tokens ++ List.replicate (openColumns cols before).length .dedent, none⟩ := by
  induction ls generalizing cols with
  | nil => cases h
  | cons l ls ih =>
    cases l with
    | unreadable =>
      cases h
      cases hline
    | content number indent text =>
      rw [scanLogical] at h ⊢
      rcases hmoves : reindent indent cols with _ | ⟨moves, cols'⟩ <;> simp only [hmoves] at h ⊢
      · cases h
        cases hline
        exact ⟨[], indent, text, ls, rfl, rfl⟩
      · rcases text with _ | text
        · cases h
          cases hline
        · simp only at h ⊢
          rcases hts : textTokens text with _ | ts <;> simp only [hts] at h ⊢
          · cases h
            cases hline
            exact ⟨[], indent, some text, ls, rfl, rfl⟩
          · obtain ⟨before, i, text', after, rfl, hbefore⟩ := ih h
            refine ⟨.content number indent (some text) :: before, i, text', after, rfl, ?_⟩
            rw [scanLogical]
            simp only [hmoves, hts, hbefore, openColumns]
            simp [Scan.after]

/-! ### Physical lines -/

/-- A physical line that says something, at column `i`. -/
def Speaks (i : Nat) (l : Line) : Prop := ∃ raw, l = some raw ∧ isSilent raw = false ∧ (raw.takeWhile Text.isIndent).length = i

/-- The line after the first `m` belongs to the logical line that begins on line `n` at column `i`: it continues
that one, or it is itself line `n`. -/
def Belongs (m : Nat) (raw : List Char) (pending : Option (Nat × Nat × List Char)) (n i : Nat) : Prop :=
  (∃ text, pending = some (n, i, text)) ∨ pending = none ∧ n = m + 1 ∧ Speaks i (some raw)

/-- What a physical line does to the line that is still continued, and the logical lines it ends. -/
inductive Adds (m : Nat) (raw : List Char) (pending : Option (Nat × Nat × List Char)) :
    List Logical → Option (Nat × Nat × List Char) → Prop
  | silent (h : pending = none) : Adds m raw pending [] none
  | goesOn {n i : Nat} (h : Belongs m raw pending n i) (text : List Char) : Adds m raw pending [] (some (n, i, text))
  | ends {n i : Nat} (h : Belongs m raw pending n i) (text : List Char) :
      Adds m raw pending [.content n i (some text)] none

theorem adds_logicalFrom (m : Nat) (raw : List Char) (pending : Option (Nat × Nat × List Char)) :
    ∃ out pending', Adds m raw pending out pending' ∧
      ∀ ls, logicalFrom m pending (some raw :: ls) = out ++ logicalFrom (m + 1) pending' ls := by
  rcases pending with _ | ⟨number, indent, text⟩
  · cases hsilent : isSilent raw with
    | true => exact ⟨[], none, .silent rfl, logicalFrom_silent hsilent m⟩
    | false =>
      have hbelongs : Belongs m raw none (m + 1) (raw.takeWhile Text.isIndent).length :=
        Or.inr ⟨rfl, rfl, raw, rfl, hsilent, rfl⟩
      cases hcontinued : isContinued (Text.trimChars raw) with
      | true => exact ⟨[], _, .goesOn hbelongs (Text.trimChars raw), fun ls => by simp [logicalFrom, hsilent, hcontinued]⟩
      | false => exact ⟨_, none, .ends hbelongs (Text.trimChars raw), fun ls => by simp [logicalFrom, hsilent, hcontinued]⟩
  · have hbelongs : Belongs m raw (some (number, indent, text)) number indent := Or.inl ⟨text, rfl⟩
    cases hcontinued : isContinued (continueWith text raw) with
    | true => exact ⟨[], _, .goesOn hbelongs (continueWith text raw), fun ls => by simp [logicalFrom, hcontinued]⟩
    | false => exact ⟨_, none, .ends hbelongs (continueWith text raw), fun ls => by simp [logicalFrom, hcontinued]⟩

/-- The physical lines before the one with which a logical line begins make the logical lines before that one. Only
the line that is still continued has begun before. -/
theorem logicalFrom_take {ls : List Line} {pending : Option (Nat × Nat × List Char)} {text : Option (List Char)}
    (h : logicalFrom m pending ls = before ++ .content n i text :: after) :
    (before = [] ∧ ∃ pendingText, pending = some (n, i, pendingText)) ∨
      ∃ k, n = m + k + 1 ∧ logicalFrom m pending (ls.take k) = before ∧ ∃ l, ls[k]? = some l ∧ Speaks i l := by
  induction ls generalizing m pending before with
  | nil =>
    rcases pending with _ | ⟨number, indent, pending⟩ <;> rw [logicalFrom] at h
    · simp at h
    · obtain ⟨rfl, heq⟩ | ⟨_, _, h⟩ := List.cons_eq_append_iff.mp h
      · cases heq
        exact Or.inl ⟨rfl, _, rfl⟩
      · simp at h
  | cons l ls ih =>
    rcases l with _ | raw
    · rcases pending with _ | ⟨number, indent, pending⟩ <;>
        obtain ⟨rfl, heq⟩ | ⟨_, _, h⟩ := List.cons_eq_append_iff.mp h
      · cases heq
      · simp at h
      · cases heq
        exact Or.inl ⟨rfl, _, rfl⟩
      · simp at h
    · obtain ⟨out, pending', hadds, hlogical⟩ := adds_logicalFrom m raw pending
      rw [hlogical] at h
      -- The logical line begins here, or on a later line.
      have hhere : before = [] → Belongs m raw pending n i →
          (before = [] ∧ ∃ pendingText, pending = some (n, i, pendingText)) ∨
            ∃ k, n = m + k + 1 ∧ logicalFrom m pending ((some raw :: ls).take k) = before ∧
              ∃ l, (some raw :: ls)[k]? = some l ∧ Speaks i l := by
        rintro rfl (hpending | ⟨rfl, rfl, hspeaks⟩)
        · exact Or.inl ⟨rfl, hpending⟩
        · exact Or.inr ⟨0, rfl, rfl, some raw, rfl, hspeaks⟩
      have hlater : ∀ k, n = m + 1 + k + 1 → out ++ logicalFrom (m + 1) pending' (ls.take k) = before →
          (∃ l, ls[k]? = some l ∧ Speaks i l) →
            ∃ k, n = m + k + 1 ∧ logicalFrom m pending ((some raw :: ls).take k) = before ∧
              ∃ l, (some raw :: ls)[k]? = some l ∧ Speaks i l := fun k hn htake hspeaks =>
        ⟨k + 1, by omega, by rw [List.take_succ_cons, hlogical, htake], hspeaks⟩
      cases hadds with
      | silent =>
        rcases ih h with ⟨-, _, hnone⟩ | ⟨k, hn, htake, hspeaks⟩
        · cases hnone
        · exact Or.inr (hlater k hn htake hspeaks)
      | goesOn hbelongs =>
        rcases ih h with ⟨hnil, _, hpending⟩ | ⟨k, hn, htake, hspeaks⟩
        · cases hpending
          exact hhere hnil hbelongs
        · exact Or.inr (hlater k hn htake hspeaks)
      | ends hbelongs =>
        obtain ⟨hnil, heq⟩ | ⟨before', rfl, hrest⟩ := List.cons_eq_append_iff.mp h
        · cases heq
          exact hhere hnil hbelongs
        · rcases ih hrest with ⟨-, _, hnone⟩ | ⟨k, hn, htake, hspeaks⟩
          · cases hnone
          · exact Or.inr (hlater k hn (congrArg _ htake) hspeaks)

/-! ### Texts -/

/-- The first physical lines of a text. -/
def firstLines (k : Nat) (s : String) : String := String.join ((Text.lines s).take k)

theorem ofText_firstLines (k : Nat) (s : String) : Line.ofText (firstLines k s) = (Line.ofText s).take k := by
  have hchars : (firstLines k s).toList = ((Text.lineChars s.toList).take k).flatten := by
    rw [firstLines, Text.lines, String.toList_join, ← List.map_take, List.flatMap_map]
    simp [List.flatMap_def]
  rw [Line.ofText, Line.ofText, hchars, ((Text.isLines_lineChars s.toList).take k).eq, List.map_take]

/-- The tokens by which the end of a text closes the blocks that are open there. -/
def endTokens (s : String) : List Token :=
  List.replicate (openColumns [0] (logicalLines (Line.ofText s))).length .dedent

/-- A scan of a text that fails with `e` at line `n`. -/
structure CutAt (s : String) (n : Nat) (e : Error) : Prop where
  /-- Line `n` is a physical line of the text, a logical line begins with it, and the lines before it are whole. -/
  line : ∃ k i text after, n = k + 1 ∧ (∃ l, (Line.ofText s)[k]? = some l ∧ Speaks i l) ∧
    logicalLines (Line.ofText s) = logicalLines (Line.ofText (firstLines k s)) ++ .content n i text :: after
  /-- Requests give the tokens of the lines before line `n`, then the failure, and nothing after that. -/
  answers : ∃ ts, tokenize (firstLines (n - 1) s) = .ok (ts ++ endTokens (firstLines (n - 1) s)) ∧
    ∀ m, (Scanner.ofText s).answer? m = (ts.map .ok ++ [.error e])[m]?

theorem failure_of_answer? {s : String} (h : (Scanner.ofText s).answer? m = some (.error e)) :
    (scan s).failure = some e := by
  rw [Scanner.answer?_ofText, Scan.item?] at h
  have hmem := List.mem_of_getElem? h
  rw [Scan.items, List.mem_append] at hmem
  cases hfailure : (scan s).failure with
  | none => simp [hfailure] at hmem
  | some e' => simpa [hfailure, eq_comm] using hmem

/-- If a request gives a failure at line `n`, the scan of the text is cut off in front of that line. -/
theorem cutAt_of_answer {s : String} (h : (Scanner.ofText s).answer? m = some (.error e)) (hline : e.line? = some n) :
    CutAt s n e := by
  have hfailure := failure_of_answer? h
  obtain ⟨before, i, text, after, hlogical, hbefore⟩ := scanLogical_before hfailure hline
  obtain ⟨-, _, hnone⟩ | ⟨k, hn, htake, hspeaks⟩ := logicalFrom_take hlogical
  · cases hnone
  obtain rfl : n = k + 1 := by omega
  have hfirst : logicalLines (Line.ofText (firstLines k s)) = before := by rw [ofText_firstLines, logicalLines, htake]
  refine ⟨⟨k, i, text, after, rfl, hspeaks, by rw [hfirst]; exact hlogical⟩, (scan s).tokens, ?_, fun m => ?_⟩
  · rw [Nat.add_sub_cancel, tokenize, scan, scanLines, endTokens, hfirst, hbefore]
    rfl
  · rw [Scanner.answer?_ofText, Scan.item?, Scan.items, hfailure]
    rfl

/-- The last line closes a block, but no block stands at its column: the token that closes the block is not given. -/
theorem cutAt_of_answer_between_columns :
    (Scanner.ofText "f:\n    A: x \\\n      y\n  B: z\n").answer? 6 = some (.error (.badIndentation 4)) ∧
      CutAt "f:\n    A: x \\\n      y\n  B: z\n" 4 (.badIndentation 4) :=
  have h := by decide +kernel
  ⟨h, cutAt_of_answer h rfl⟩

end Outline
end Bindery
