import Bindery.Proofs.Outline.Lines
import Bindery.Proofs.Outline.Row

/-! # Scanning a written outline

The lines of a writable row are read as one logical line, which gives the tokens of its key and its text.
Where the rows are those of a tree, the tokens between them open and close a block for each mapping that
is not empty. -/

namespace Bindery.Outline
open Attr (Value Tree)

/-- The text of the logical line that shows a row. -/
def Row.chars (r : Row) : List Char :=
  match r.text with
  | none => r.key.toList ++ [':']
  | some s => r.key.toList ++ ':' :: ' ' :: s.toList

/-- The tokens of the logical line that shows a row. -/
def Row.tokens (r : Row) : List Token :=
  match r.text with
  | none => [.key [r.key]]
  | some s => [.key [r.key], .indent, .text s, .dedent]

/-! ### Logical lines -/

/-- A text with which a logical line can begin, whatever indents it. -/
structure Opening (body : List Char) : Prop where
  ne_nil : body ≠ []
  trimmed : Text.Trimmed body
  head : body.head? ≠ some '#'

theorem KeyShape.opening {key rest : List Char} (h : KeyShape key) (hrest : rest ≠ [])
    (hlast : ∀ c ∈ rest.getLast?, Text.isBlank c = false) : Opening (key ++ rest) where
  ne_nil := by simp [h.ne_nil]
  trimmed := Text.trimmed_append h.ne_nil hrest h.trimmed.head hlast
  head := by
    obtain ⟨c, key, rfl⟩ := List.exists_cons_of_ne_nil h.ne_nil
    exact h.head

theorem isBlank_of_mem_spaces {n : Nat} : ∀ c ∈ List.replicate n ' ', Text.isBlank c = true := by
  intro c hc
  rw [List.eq_of_mem_replicate hc]
  rfl

theorem Opening.isSilent {body : List Char} (h : Opening body) : isSilent body = false := by
  obtain ⟨c, rest, rfl⟩ := List.exists_cons_of_ne_nil h.ne_nil
  rw [Bindery.Outline.isSilent, Text.trimChars_of_trimmed h.trimmed]
  simpa using h.head

theorem Opening.isIndent_head {body : List Char} (h : Opening body) : ∀ c ∈ body.head?, Text.isIndent c = false := by
  intro c hc
  cases hindent : Text.isIndent c with
  | false => rfl
  | true => exact (Text.isBlank_of_isIndent hindent).symm.trans (h.trimmed.head c hc)

theorem shows_margin (depth : Nat) (body : List Char) : Shows (4 * depth) body ((margin depth).toList ++ body) := by
  have hspaces : ∀ c ∈ List.replicate (4 * depth) ' ', Text.isIndent c = true := by
    intro c hc
    rw [List.eq_of_mem_replicate hc]
    rfl
  have hline : Shows (4 * depth) body (List.replicate (4 * depth) ' ' ++ body ++ []) :=
    .intro hspaces List.length_replicate (by simp)
  rwa [List.append_nil, ← toList_margin] at hline

/-- A physical line that opens a logical one either is that line or is continued. -/
theorem logicalFrom_opening {body : List Char} (h : Opening body) (depth n : Nat) (rest : List Line) :
    logicalFrom n none (some ((margin depth).toList ++ body) :: rest) =
      if isContinued body then logicalFrom (n + 1) (some (n + 1, 4 * depth, body)) rest
      else .content (n + 1) (4 * depth) (some body) :: logicalFrom (n + 1) none rest := by
  rw [logicalFrom_begin (shows_margin depth body) h.isIndent_head h.isSilent, Text.trimChars_of_trimmed h.trimmed]

theorem isContinued_append (text : List Char) : isContinued (text ++ ['\\']) = true := by
  simp [isContinued]

theorem Final.isContinued {text p : List Char} (h : Final p) (hp : p ≠ []) : isContinued (text ++ p) = false := by
  rw [Bindery.Outline.isContinued, List.getLast?_append, List.getLast?_eq_some_getLast hp, Option.some_or]
  simpa using (h _ (List.getLast?_eq_some_getLast hp)).2

theorem continueWith_spaces {text p : List Char} {n : Nat} (hp : Text.Trimmed p) :
    continueWith (text ++ ['\\']) (List.replicate n ' ' ++ p) = text ++ joiner ++ p := by
  rw [continueWith, List.dropLast_concat, Text.trimChars_append isBlank_of_mem_spaces, Text.trimChars_of_trimmed hp]

/-- The lines of the pieces that follow a continued text complete it. -/
theorem logicalFrom_textLines {ps : List (List Char)} (hps : ps ≠ []) (hshape : ∀ p ∈ ps, PieceShape p)
    (hfinal : ∀ p ∈ ps.getLast?, Final p) (number indent k n : Nat) (text : List Char) (rest : List Line) :
    logicalFrom n (some (number, indent, text ++ ['\\']))
        ((textLines (List.replicate k ' ') (List.replicate k ' ') ps).map some ++ rest) =
      .content number indent (some (text ++ joiner ++ joiner.intercalate ps)) ::
        logicalFrom (n + ps.length) none rest := by
  induction ps generalizing n text with
  | nil => exact absurd rfl hps
  | cons p ps ih =>
    rw [List.forall_mem_cons] at hshape
    obtain ⟨hp, hshape⟩ := hshape
    cases ps with
    | nil =>
      have hlast : Final p := hfinal p rfl
      have htrim : Text.Trimmed p := ⟨hp.head, fun c hc => (hlast c hc).1⟩
      rw [textLines, List.map_singleton, List.singleton_append, logicalFrom]
      simp only [continueWith_spaces htrim, hlast.isContinued hp.ne_nil, List.intercalate_singleton,
        Bool.false_eq_true, if_false, List.length_singleton]
    | cons q ps =>
      have htrim : Text.Trimmed (p ++ ['\\']) :=
        Text.trimmed_append hp.ne_nil (by simp) hp.head (by simp [Text.isBlank])
      have ih := ih (by simp) hshape (by simpa using hfinal) (n + 1) (text ++ joiner ++ p)
      rw [textLines, List.map_cons, List.cons_append, logicalFrom, List.append_assoc]
      simp only [continueWith_spaces htrim]
      rw [← List.append_assoc, isContinued_append, if_pos rfl, ih, List.intercalate_cons_cons]
      simp [Nat.add_assoc, Nat.add_comm 1]

theorem length_textLines (start next : List Char) (ps : List (List Char)) :
    (textLines start next ps).length = ps.length := by
  induction ps generalizing start with
  | nil => rfl
  | cons p ps ih =>
    cases ps with
    | nil => rfl
    | cons q ps => simp only [textLines, List.length_cons, ih]

/-- The lines of a writable row are one logical line. -/
theorem logicalFrom_row {r : Row} (h : r.Writable) (n : Nat) (rest : List Line) :
    logicalFrom n none (r.lines.map some ++ rest) =
      .content (n + 1) (4 * r.depth) (some r.chars) :: logicalFrom (n + r.lines.length) none rest := by
  obtain ⟨depth, key, text⟩ := r
  have hkey : KeyShape key.toList := keyFault?_eq_none_iff.mp h.key
  cases text with
  | none =>
    have hopening : Opening (key.toList ++ [':']) := hkey.opening (by simp) (by simp [Text.isBlank])
    rw [Row.lines, List.map_singleton, List.singleton_append, logicalFrom_opening hopening, if_neg]
    · rfl
    · simp [isContinued]
  | some s =>
    obtain ⟨hshape, hfinal⟩ := piecesFault?_eq_none_iff.mp (h.text s rfl)
    have hjoin := intercalate_pieces s
    obtain ⟨p, ps, hpieces⟩ := List.exists_cons_of_ne_nil (pieces_ne_nil s)
    rw [Row.lines, Row.chars, length_textLines]
    simp only [hpieces] at hshape hfinal hjoin ⊢
    cases ps with
    | nil =>
      have hlast : Final p := hfinal p rfl
      have hp : PieceShape p := hshape p (by simp)
      have hopening : Opening (key.toList ++ ([':', ' '] ++ p)) := by
        refine hkey.opening (by simp) fun c hc => (hlast c ?_).1
        rwa [List.getLast?_append, List.getLast?_eq_some_getLast hp.ne_nil, Option.some_or,
          ← List.getLast?_eq_some_getLast hp.ne_nil] at hc
      have hcontinued : isContinued (key.toList ++ ([':', ' '] ++ p)) = false := by
        rw [← List.append_assoc]
        exact hlast.isContinued hp.ne_nil
      rw [List.intercalate_singleton] at hjoin
      rw [textLines, List.map_singleton, List.singleton_append, List.append_assoc, List.append_assoc,
        logicalFrom_opening hopening, hcontinued, ← hjoin]
      rfl
    | cons q ps =>
      have hopening : Opening (key.toList ++ ([':', ' '] ++ p ++ ['\\'])) := by
        refine hkey.opening (by simp) ?_
        rw [List.getLast?_concat]
        simp [Text.isBlank]
      have hcontinued : isContinued (key.toList ++ ([':', ' '] ++ p ++ ['\\'])) = true := by
        rw [← List.append_assoc]
        exact isContinued_append _
      have htext : key.toList ++ ([':', ' '] ++ p ++ ['\\']) = (key.toList ++ [':', ' '] ++ p) ++ ['\\'] := by simp
      rw [List.forall_mem_cons] at hshape
      rw [List.getLast?_cons_cons] at hfinal
      rw [List.intercalate_cons_cons] at hjoin
      rw [textLines, List.map_cons, List.cons_append, List.append_assoc, List.append_assoc, List.append_assoc,
        ← List.append_assoc [':', ' '], logicalFrom_opening hopening, if_pos hcontinued, toList_margin_step, htext,
        logicalFrom_textLines (by simp) hshape.2 hfinal, ← hjoin]
      simp [Nat.add_assoc, Nat.add_comm 1]

/-! ### Tokens of a line -/

theorem trimmed_intercalate {ps : List (List Char)} (hps : ps ≠ []) (hshape : ∀ p ∈ ps, PieceShape p)
    (hfinal : ∀ p ∈ ps.getLast?, Final p) :
    joiner.intercalate ps ≠ [] ∧ Text.Trimmed (joiner.intercalate ps) := by
  induction ps with
  | nil => exact absurd rfl hps
  | cons p ps ih =>
    rw [List.forall_mem_cons] at hshape
    obtain ⟨hp, hshape⟩ := hshape
    cases ps with
    | nil =>
      rw [List.intercalate_singleton]
      exact ⟨hp.ne_nil, hp.head, fun c hc => (hfinal p rfl c hc).1⟩
    | cons q ps =>
      obtain ⟨hne, htrim⟩ := ih (by simp) hshape (by simpa using hfinal)
      rw [List.intercalate_cons_cons]
      refine ⟨by simp [hne], Text.trimmed_append (by simp [hp.ne_nil]) hne ?_ htrim.last⟩
      obtain ⟨c, p, rfl⟩ := List.exists_cons_of_ne_nil hp.ne_nil
      exact hp.head

theorem splitKey_of_keyShape {key : List Char} (h : KeyShape key) :
    (Text.splitWhere (· == ',') (Text.trimChars key)).map Text.trimChars = [key] := by
  rw [Text.trimChars_of_trimmed h.trimmed, Text.splitWhere_of_forall, List.map_singleton,
    Text.trimChars_of_trimmed h.trimmed]
  intro c hc
  simpa using (h.plain c hc).2.1

/-- The line of a writable row gives the tokens of its key and its text. -/
theorem textTokens_row {r : Row} (h : r.Writable) : textTokens r.chars = some r.tokens := by
  obtain ⟨depth, key, text⟩ := r
  have hkey : KeyShape key.toList := keyFault?_eq_none_iff.mp h.key
  have hcolon : ∀ c ∈ key.toList, (c == ':') = false := fun c hc => by simpa using (hkey.plain c hc).1
  have hany : [key.toList].any (·.isEmpty) = false := by simpa using hkey.ne_nil
  cases text with
  | none =>
    rw [Row.chars, textTokens, Text.cutWhere?_append hcolon (by simp)]
    simp only [splitKey_of_keyShape hkey, hany]
    simp [Row.tokens, Text.trimChars, Text.dropEndWhile]
  | some s =>
    obtain ⟨hshape, hfinal⟩ := piecesFault?_eq_none_iff.mp (h.text s rfl)
    have htext := trimmed_intercalate (pieces_ne_nil s) hshape hfinal
    rw [intercalate_pieces] at htext
    have hvalue : Text.trimChars (' ' :: s.toList) = s.toList := by
      rw [← List.singleton_append, Text.trimChars_append (by simp [Text.isBlank]), Text.trimChars_of_trimmed htext.2]
    have hempty : s.toList.isEmpty = false := by simpa using htext.1
    rw [Row.chars, textTokens, Text.cutWhere?_append hcolon (by simp)]
    simp only [splitKey_of_keyShape hkey, hany, hvalue, hempty]
    simp [Row.tokens]

/-! ### Tokens of a tree -/

/-- A block around tokens, if there are any. -/
def block : List Token → List Token
  | [] => []
  | t :: ts => .indent :: (t :: ts ++ [.dedent])

mutual
/-- The tokens of a value after those of its key. -/
def valueTokens : Value → List Token
  | .text s => block [.text s]
  | .list items => block [.text (Text.commaJoin items)]
  | .map entries => block (treeTokens entries)
termination_by structural v => v
/-- The tokens of a tree. -/
def treeTokens : List (String × Value) → List Token
  | [] => []
  | (key, value) :: rest => .key [key] :: (valueTokens value ++ treeTokens rest)
termination_by structural es => es
end

/-! ### Scanning -/

/-- The columns that are open below a line at a depth. -/
def columns : Nat → List Nat
  | 0 => [0]
  | depth + 1 => 4 * (depth + 1) :: columns depth

theorem reindent_columns {i d : Nat} (h : i ≤ d) :
    reindent (4 * i) (columns d) = some (List.replicate (d - i) .dedent, columns i) := by
  induction d with
  | zero =>
    obtain rfl : i = 0 := by omega
    rfl
  | succ d ih =>
    rcases Nat.lt_or_eq_of_le h with hlt | rfl
    · have hle : i ≤ d := by omega
      have hclose : closeTo (4 * i) (columns d) = some (List.replicate (d - i) .dedent, columns i) := by
        rw [← ih hle]
        cases d with
        | zero =>
          obtain rfl : i = 0 := by omega
          rfl
        | succ d => rw [columns, reindent, if_neg (by omega)]
      rw [columns, reindent, if_neg (by omega), closeTo, if_pos (by omega), hclose,
        show d + 1 - i = d - i + 1 by omega]
      rfl
    · simp [columns, reindent, closeTo]

theorem reindent_columns_succ (d : Nat) :
    reindent (4 * (d + 1)) (columns d) = some ([.indent], columns (d + 1)) := by
  cases d <;> simp [columns, reindent]

theorem after_after (ts us : List Token) (s : Scan) : (s.after us).after ts = s.after (ts ++ us) := by
  simp [Scan.after]

theorem scanLogical_row (name : String) {n : Nat} {r : Row} {cols cols' : List Nat} {moves : List Token}
    (h : r.Writable) (hmoves : reindent (4 * r.depth) cols = some (moves, cols')) (rest : List Logical) :
    scanLogical name cols (.content n (4 * r.depth) (some r.chars) :: rest) =
      (scanLogical name cols' rest).after (moves ++ r.tokens) := by
  rw [scanLogical, hmoves]
  simp only [textTokens_row h]

/-- The physical lines of rows. -/
def rowLines (rows : List Row) : List Line := (rows.flatMap Row.lines).map some

theorem rowLines_append (rows more : List Row) : rowLines (rows ++ more) = rowLines rows ++ rowLines more := by
  simp [rowLines]

theorem logicalFrom_rowLines {r : Row} (h : r.Writable) (rows : List Row) (n : Nat) (rest : List Line) :
    logicalFrom n none (rowLines (r :: rows) ++ rest) =
      .content (n + 1) (4 * r.depth) (some r.chars) :: logicalFrom (n + r.lines.length) none (rowLines rows ++ rest) := by
  rw [rowLines, List.flatMap_cons, List.map_append, List.append_assoc, logicalFrom_row h]
  rfl

/-- What follows is at its end, or goes on with a row no deeper than `d`. -/
def Shallow (d : Nat) (rest : List Line) : Prop :=
  ∀ n, logicalFrom n none rest = [] ∨
    ∃ r : Row, r.Writable ∧ r.depth ≤ d ∧
      ∃ m more, logicalFrom n none rest = .content m (4 * r.depth) (some r.chars) :: more

theorem Shallow.mono {d e : Nat} {rest : List Line} (h : Shallow d rest) (hde : d ≤ e) : Shallow e rest := by
  intro n
  rcases h n with hnil | ⟨r, hw, hr, hmore⟩
  · exact Or.inl hnil
  · exact Or.inr ⟨r, hw, Nat.le_trans hr hde, hmore⟩

theorem entryRows_eq_cons (depth : Nat) (key : String) (value : Value) :
    ∃ text rows, entryRows depth key value = ⟨depth, key, text⟩ :: rows := by
  cases value <;> exact ⟨_, _, by rw [entryRows]⟩

theorem shallow_treeRows {d : Nat} {tree : Tree} {rest : List Line} (h : ∀ r ∈ treeRows d tree, r.Writable)
    (hrest : Shallow d rest) : Shallow d (rowLines (treeRows d tree) ++ rest) := by
  cases tree with
  | nil => exact hrest
  | cons e tree =>
    obtain ⟨key, value⟩ := e
    obtain ⟨text, rows, hrows⟩ := entryRows_eq_cons d key value
    rw [treeRows, hrows, List.cons_append] at h ⊢
    have hw : (Row.mk d key text).Writable := h _ (by simp)
    exact fun n => Or.inr ⟨_, hw, Nat.le_refl d, _, _, logicalFrom_rowLines hw _ n rest⟩

/-- A block that nothing deeper continues is closed before what follows. -/
theorem scan_close (name : String) {d : Nat} {rest : List Line} (h : Shallow d rest) (n : Nat) :
    scanLogical name (columns (d + 1)) (logicalFrom n none rest) =
      (scanLogical name (columns d) (logicalFrom n none rest)).after [.dedent] := by
  rcases h n with hnil | ⟨r, hw, hr, m, more, hmore⟩
  · rw [hnil]
    rfl
  · rw [hmore, scanLogical_row name hw (reindent_columns (Nat.le_succ_of_le hr)),
      scanLogical_row name hw (reindent_columns hr), after_after, show d + 1 - r.depth = d - r.depth + 1 by omega]
    rfl

/-- A block is opened before the rows of a tree that is not empty. -/
theorem scan_open (name : String) {d : Nat} {e : String × Value} {tree : Tree} {rest : List Line}
    (h : ∀ r ∈ treeRows (d + 1) (e :: tree), r.Writable) (n : Nat) :
    scanLogical name (columns d) (logicalFrom n none (rowLines (treeRows (d + 1) (e :: tree)) ++ rest)) =
      (scanLogical name (columns (d + 1))
        (logicalFrom n none (rowLines (treeRows (d + 1) (e :: tree)) ++ rest))).after [.indent] := by
  obtain ⟨key, value⟩ := e
  obtain ⟨text, rows, hrows⟩ := entryRows_eq_cons (d + 1) key value
  rw [treeRows, hrows, List.cons_append] at h ⊢
  have hw : (Row.mk (d + 1) key text).Writable := h _ (by simp)
  rw [logicalFrom_rowLines hw, scanLogical_row name hw (reindent_columns_succ d),
    scanLogical_row name hw (reindent_columns (Nat.le_refl (d + 1))), after_after]
  simp

theorem scan_row (name : String) {r : Row} (h : r.Writable) (rows : List Row) (n : Nat) (rest : List Line) :
    scanLogical name (columns r.depth) (logicalFrom n none (rowLines (r :: rows) ++ rest)) =
      (scanLogical name (columns r.depth)
        (logicalFrom (n + r.lines.length) none (rowLines rows ++ rest))).after r.tokens := by
  rw [logicalFrom_rowLines h, scanLogical_row name h (reindent_columns (Nat.le_refl _)), Nat.sub_self, List.replicate_zero,
    List.nil_append]

mutual
theorem scan_entryRows (name : String) {d : Nat} {key : String} {rest : List Line} (hrest : Shallow d rest) :
    ∀ {value : Value}, (∀ r ∈ entryRows d key value, r.Writable) → ∀ n, ∃ m,
      scanLogical name (columns d) (logicalFrom n none (rowLines (entryRows d key value) ++ rest)) =
        (scanLogical name (columns d) (logicalFrom m none rest)).after (.key [key] :: valueTokens value)
  | .text s, h, n => by
    rw [entryRows, List.forall_mem_singleton] at h
    exact ⟨_, by rw [entryRows, scan_row name h, valueTokens]; rfl⟩
  | .list items, h, n => by
    rw [entryRows, List.forall_mem_singleton] at h
    exact ⟨_, by rw [entryRows, scan_row name h, valueTokens]; rfl⟩
  | .map [], h, n => by
    rw [entryRows, List.forall_mem_cons] at h
    exact ⟨_, by rw [entryRows, scan_row name h.1, valueTokens, treeTokens]; rfl⟩
  | .map (e :: entries), h, n => by
    rw [entryRows, List.forall_mem_cons] at h
    obtain ⟨hrow, hrows⟩ := h
    obtain ⟨m, hm⟩ := scan_treeRows name (hrest.mono (Nat.le_succ d)) hrows (n + (Row.mk d key none).lines.length)
    refine ⟨m, ?_⟩
    -- The row of the key, the beginning of its block, the rows in it and its end.
    rw [entryRows, scan_row name hrow, scan_open name hrows, hm, scan_close name hrest, after_after, after_after, after_after]
    simp [Row.tokens, valueTokens, treeTokens, block]
theorem scan_treeRows (name : String) {d : Nat} {rest : List Line} (hrest : Shallow d rest) :
    ∀ {tree : List (String × Value)}, (∀ r ∈ treeRows d tree, r.Writable) → ∀ n, ∃ m,
      scanLogical name (columns d) (logicalFrom n none (rowLines (treeRows d tree) ++ rest)) =
        (scanLogical name (columns d) (logicalFrom m none rest)).after (treeTokens tree)
  | [], _, n => ⟨n, by simp [treeRows, treeTokens, Scan.after, rowLines]⟩
  | (key, value) :: tree, h, n => by
    rw [treeRows, List.forall_mem_append] at h
    -- The next entry stands at the same depth, so it closes the blocks of this one.
    obtain ⟨m, hm⟩ := scan_entryRows name (shallow_treeRows h.2 hrest) h.1 n
    obtain ⟨k, hk⟩ := scan_treeRows name hrest h.2 m
    refine ⟨k, ?_⟩
    rw [treeRows, rowLines_append, List.append_assoc, hm, hk, after_after, treeTokens]
    rfl
end

/-! ### Written trees -/

theorem logicalFrom_empty (n : Nat) (rest : List Line) :
    logicalFrom n none (some [] :: rest) = logicalFrom (n + 1) none rest := rfl

theorem shallow_nil (d : Nat) : Shallow d [] := fun _ => Or.inl rfl

theorem shallow_treeLines {tree : Tree} (h : ∀ r ∈ treeRows 0 tree, r.Writable) :
    Shallow 0 (some [] :: (treeLines tree).map some) := by
  intro n
  rw [logicalFrom_empty]
  cases tree with
  | nil => exact Or.inl rfl
  | cons e tree =>
    obtain ⟨key, value⟩ := e
    obtain ⟨text, rows, hrows⟩ := entryRows_eq_cons 0 key value
    rw [treeRows, hrows] at h
    have hw : (Row.mk 0 key text).Writable := h _ (by simp)
    have hlines : ∃ rest, (treeLines ((key, value) :: tree)).map some = rowLines (⟨0, key, text⟩ :: rows) ++ rest := by
      rw [← hrows]
      cases tree with
      | nil => exact ⟨[], by simp [treeLines, rowLines]⟩
      | cons e' tree => exact ⟨some [] :: (treeLines (e' :: tree)).map some, by simp [treeLines, rowLines]⟩
    obtain ⟨rest, hrest⟩ := hlines
    rw [hrest]
    exact Or.inr ⟨_, hw, Nat.le_refl 0, _, _, logicalFrom_rowLines hw rows (n + 1) rest⟩

theorem scan_treeLines (name : String) {tree : Tree} (h : ∀ r ∈ treeRows 0 tree, r.Writable) (n : Nat) :
    scanLogical name (columns 0) (logicalFrom n none ((treeLines tree).map some)) =
      ⟨treeTokens tree ++ [.dedent], none⟩ := by
  induction tree generalizing n with
  | nil => rfl
  | cons e tree ih =>
    obtain ⟨key, value⟩ := e
    rw [treeRows, List.forall_mem_append] at h
    cases tree with
    | nil =>
      obtain ⟨m, hm⟩ := scan_entryRows name (shallow_nil 0) h.1 n
      rw [List.append_nil] at hm
      rw [treeLines, ← rowLines, hm, treeTokens, treeTokens, List.append_nil]
      rfl
    | cons e' tree =>
      obtain ⟨m, hm⟩ := scan_entryRows name (shallow_treeLines h.2) h.1 n
      rw [treeLines, List.map_append, ← rowLines, List.map_cons, hm, logicalFrom_empty, ih h.2]
      simp [Scan.after, treeTokens]

/-- A written tree is scanned to its tokens and the end of the outermost block. -/
theorem scanLines_write (name : String) {tree : Tree} {s : String} (h : write tree = .ok s) :
    scanLines name (Line.ofText s) = ⟨treeTokens tree ++ [.dedent], none⟩ := by
  obtain ⟨hw, hs⟩ := write_eq_ok h
  rw [scanLines, logicalLines, ofText_unlines hs (oneLine_treeLines hw)]
  exact scan_treeLines name hw 0

theorem scan_write {tree : Tree} {s : String} (h : write tree = .ok s) :
    scan s = ⟨treeTokens tree ++ [.dedent], none⟩ := scanLines_write "<input>" h

end Bindery.Outline
