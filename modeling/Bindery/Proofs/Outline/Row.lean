import Bindery.Outline.Writer
import Bindery.Proofs.Except
import Bindery.Proofs.Text.Pieces

/-! # The lines of a written outline

A written outline is a sequence of rows: one for every entry of the tree, at the depth of the entry, with a
text or, for a mapping, alone. A row takes one physical line, and one more for every joiner in its text.
The writer writes exactly the lines of the rows of a tree, with an empty line between the entries of the
top level, and refuses a tree of which some row is not `Writable`. -/

namespace Bindery.Outline
open Attr (Value Tree)

/-- An entry as an outline shows it: a key at a depth, alone or with a text. -/
structure Row where
  depth : Nat
  key : String
  text : Option String

mutual
/-- The rows of an entry. -/
def entryRows (depth : Nat) (key : String) : Value → List Row
  | .text s => [⟨depth, key, some s⟩]
  | .list items => [⟨depth, key, some (Text.commaJoin items)⟩]
  | .map entries => ⟨depth, key, none⟩ :: treeRows (depth + 1) entries
termination_by structural v => v
/-- The rows of a tree whose entries stand at a depth. -/
def treeRows (depth : Nat) : List (String × Value) → List Row
  | [] => []
  | (key, value) :: rest => entryRows depth key value ++ treeRows depth rest
termination_by structural es => es
end

/-! ### Physical lines -/

/-- The pieces in which a text is written. -/
def pieces (s : String) : List (List Char) := Text.splitAtChars joiner 0 s.toList

/-- The lines of a text by its pieces, where `start` stands in front of the first and `next` in front of
every other one. -/
def textLines (start next : List Char) : List (List Char) → List (List Char)
  | [] => []
  | [p] => [start ++ p]
  | p :: q :: ps => (start ++ p ++ ['\\']) :: textLines next next (q :: ps)

/-- The physical lines of a row. -/
def Row.lines (r : Row) : List (List Char) :=
  match r.text with
  | none => [(margin r.depth).toList ++ (r.key.toList ++ [':'])]
  | some s => textLines ((margin r.depth).toList ++ (r.key.toList ++ [':', ' '])) (margin r.depth ++ step).toList (pieces s)

/-- Lines as a text: each is ended by a line feed. -/
def unlines (ls : List (List Char)) : List Char := ls.flatMap (· ++ ['\n'])

theorem unlines_append (ls ms : List (List Char)) : unlines (ls ++ ms) = unlines ls ++ unlines ms :=
  List.flatMap_append

theorem pieces_ne_nil (s : String) : pieces s ≠ [] := Text.splitAtChars_ne_nil joiner 0 s.toList

theorem intercalate_pieces (s : String) : joiner.intercalate (pieces s) = s.toList :=
  Text.intercalate_splitAtChars (by simp [joiner]) 0 s.toList

theorem toList_pieceLines (indent : String) {ps : List (List Char)} (hps : ps ≠ []) (start : List Char) :
    start ++ (pieceLines indent ps).toList = unlines (textLines start (indent ++ step).toList ps) := by
  induction ps generalizing start with
  | nil => exact absurd rfl hps
  | cons p ps ih =>
    cases ps with
    | nil => simp [pieceLines, textLines, unlines]
    | cons q ps =>
      have ih := ih (by simp) (indent ++ step).toList
      rw [textLines, unlines, List.flatMap_cons, ← unlines, ← ih, pieceLines]
      · simp
      · simp

/-! ### What the writer accepts -/

/-- A key and a text that the writer accepts. -/
structure Row.Writable (r : Row) : Prop where
  key : keyFault? r.key = none
  text : ∀ s ∈ r.text, piecesFault? (pieces s) = none

/-- What a key must be for a line to show it. -/
structure KeyShape (key : List Char) : Prop where
  ne_nil : key ≠ []
  trimmed : Text.Trimmed key
  head : key.head? ≠ some '#'
  plain : ∀ c ∈ key, c ≠ ':' ∧ c ≠ ',' ∧ Text.isLineEnd c = false

theorem keyFault?_eq_none_iff {key : String} : keyFault? key = none ↔ KeyShape key.toList := by
  unfold keyFault?
  constructor
  · intro h
    split at h
    · cases h
    · rename_i hne
      split at h
      · cases h
      · rename_i hpad
        split at h
        · cases h
        · rename_i hplain
          rw [not_or, Decidable.not_not] at hpad
          refine ⟨fun hnil => hne (String.toList_eq_nil_iff.mp hnil), Text.trim_eq_self_iff.mp hpad.1, hpad.2, ?_⟩
          intro c hc
          have := fun hbad => hplain (List.any_eq_true.mpr ⟨c, hc, hbad⟩)
          simpa [not_or, and_assoc] using this
  · intro h
    have hplain : ¬(key.toList.any fun c => c == ':' || c == ',' || Text.isLineEnd c) = true := by
      rw [List.any_eq_true]
      rintro ⟨c, hc, hbad⟩
      simp [h.plain c hc] at hbad
    rw [if_neg fun he => h.ne_nil (String.toList_eq_nil_iff.mpr he), if_neg, if_neg hplain]
    rw [not_or, Decidable.not_not]
    exact ⟨Text.trim_eq_self_iff.mpr h.trimmed, h.head⟩

/-- What a piece of a text must be for a line to show it. -/
structure PieceShape (p : List Char) : Prop where
  ne_nil : p ≠ []
  head : ∀ c ∈ p.head?, Text.isBlank c = false
  lines : ∀ c ∈ p, Text.isLineEnd c = false

/-- A piece that nothing continues and that loses nothing at its end. -/
def Final (p : List Char) : Prop := ∀ c ∈ p.getLast?, Text.isBlank c = false ∧ c ≠ '\\'

theorem pieceFault?_eq_none_iff {isLast : Bool} {p : List Char} :
    pieceFault? isLast p = none ↔ PieceShape p ∧ (isLast = true → Final p) := by
  unfold pieceFault?
  constructor
  · intro h
    split at h
    · cases h
    · rename_i hstart
      split at h
      · cases h
      · rename_i hend
        split at h
        · cases h
        · rename_i hlines
          refine ⟨⟨?_, ?_, ?_⟩, ?_⟩
          · rintro rfl
            simp at hstart
          · intro c hc
            rw [Option.mem_def.mp hc] at hstart
            exact (by simpa using hstart : p ≠ [] ∧ Text.isBlank c = false).2
          · simpa using hlines
          · rintro rfl c hc
            rw [Option.mem_def.mp hc] at hend
            simpa using hend
  · rintro ⟨h, hfinal⟩
    rw [if_neg, if_neg, if_neg (by simpa using h.lines)]
    · cases isLast with
      | false => simp
      | true => simpa [Option.any_eq_false] using fun c hc => hfinal rfl c hc
    · simpa [h.ne_nil, Option.any_eq_false] using h.head

/-- A text can be written by its pieces if each has the shape of a piece, and the last one is final. -/
theorem piecesFault?_eq_none_iff {ps : List (List Char)} :
    piecesFault? ps = none ↔ (∀ p ∈ ps, PieceShape p) ∧ ∀ p ∈ ps.getLast?, Final p := by
  induction ps with
  | nil => simp [piecesFault?]
  | cons p ps ih =>
    cases ps with
    | nil => simp [piecesFault?, pieceFault?_eq_none_iff]
    | cons q ps =>
      rw [piecesFault?, Option.or_eq_none_iff, ih, pieceFault?_eq_none_iff, List.getLast?_cons_cons,
        List.forall_mem_cons (a := p)]
      · simp [and_assoc]
      · simp

theorem checkKey_eq_ok {key : String} {u : Unit} (h : checkKey key = .ok u) : keyFault? key = none := by
  unfold checkKey at h
  split at h
  · cases h
  · assumption

theorem writeText_eq_ok {indent key text s : String} (h : writeText indent key text = .ok s) :
    piecesFault? (pieces text) = none ∧ s = pieceLines indent (pieces text) := by
  unfold writeText at h
  rw [← pieces] at h
  simp only at h
  split at h
  · cases h
  · exact ⟨by assumption, (Except.ok.inj h).symm⟩

theorem writeText_row {depth : Nat} {key text s : String} (hkey : keyFault? key = none)
    (h : writeText (margin depth) key text = .ok s) :
    (Row.mk depth key (some text)).Writable ∧
      (margin depth ++ key ++ ": " ++ s).toList = unlines (Row.mk depth key (some text)).lines := by
  obtain ⟨hfault, rfl⟩ := writeText_eq_ok h
  refine ⟨⟨hkey, fun t ht => ?_⟩, ?_⟩
  · cases ht
    exact hfault
  · rw [Row.lines, ← toList_pieceLines (margin depth) (pieces_ne_nil text)]
    simp

/-- What is written are the lines of rows, each of them writable. -/
def Writes (rows : List Row) (s : List Char) : Prop :=
  (∀ r ∈ rows, r.Writable) ∧ s = unlines (rows.flatMap Row.lines)

theorem Writes.append {rows more : List Row} {s t : List Char} (h : Writes rows s) (h' : Writes more t) :
    Writes (rows ++ more) (s ++ t) := by
  refine ⟨fun r hr => ?_, ?_⟩
  · rcases List.mem_append.mp hr with hr | hr
    · exact h.1 r hr
    · exact h'.1 r hr
  · rw [List.flatMap_append, unlines_append, ← h.2, ← h'.2]

mutual
theorem writeEntry_writes {depth : Nat} {key s : String} :
    ∀ {value : Value}, writeEntry depth key value = .ok s → Writes (entryRows depth key value) s.toList
  | .text text, h => by
    rw [writeEntry] at h
    obtain ⟨_, hkey, h⟩ := bind_eq_ok_iff.mp h
    obtain ⟨t, ht, h⟩ := bind_eq_ok_iff.mp h
    obtain ⟨hw, hs⟩ := writeText_row (checkKey_eq_ok hkey) ht
    rw [← pure_eq_ok_iff.mp h]
    exact ⟨by simpa [entryRows] using hw, by simpa [entryRows] using hs⟩
  | .list items, h => by
    rw [writeEntry] at h
    obtain ⟨_, hkey, h⟩ := bind_eq_ok_iff.mp h
    obtain ⟨t, ht, h⟩ := bind_eq_ok_iff.mp h
    obtain ⟨hw, hs⟩ := writeText_row (checkKey_eq_ok hkey) ht
    rw [← pure_eq_ok_iff.mp h]
    exact ⟨by simpa [entryRows] using hw, by simpa [entryRows] using hs⟩
  | .map entries, h => by
    rw [writeEntry] at h
    obtain ⟨_, hkey, h⟩ := bind_eq_ok_iff.mp h
    obtain ⟨ts, hts, h⟩ := bind_eq_ok_iff.mp h
    rw [← pure_eq_ok_iff.mp h, entryRows]
    have hrow : Writes [⟨depth, key, none⟩] (margin depth ++ key ++ ":\n").toList := by
      refine ⟨?_, by simp [Row.lines, unlines]⟩
      rintro r hr
      rw [List.mem_singleton.mp hr]
      exact ⟨checkKey_eq_ok hkey, fun t ht => by cases ht⟩
    rw [String.toList_append]
    exact hrow.append (writeEntries_writes hts)
theorem writeEntries_writes {depth : Nat} {ss : List String} :
    ∀ {entries : List (String × Value)}, writeEntries depth entries = .ok ss →
      Writes (treeRows depth entries) (String.join ss).toList
  | [], h => by
    cases h
    exact ⟨by simp [treeRows], by simp [treeRows, unlines]⟩
  | (key, value) :: rest, h => by
    rw [writeEntries] at h
    obtain ⟨first, hfirst, h⟩ := bind_eq_ok_iff.mp h
    obtain ⟨others, hothers, h⟩ := bind_eq_ok_iff.mp h
    rw [← pure_eq_ok_iff.mp h, treeRows, String.join_cons, String.toList_append]
    exact (writeEntry_writes hfirst).append (writeEntries_writes hothers)
end

/-- The physical lines of a written tree: an empty line stands between its entries. -/
def treeLines : List (String × Value) → List (List Char)
  | [] => []
  | [(key, value)] => (entryRows 0 key value).flatMap Row.lines
  | (key, value) :: e :: rest => (entryRows 0 key value).flatMap Row.lines ++ [] :: treeLines (e :: rest)

theorem joinWith_writes {tree : Tree} {ss : List String} (h : writeEntries 0 tree = .ok ss) :
    (Text.joinWith "\n" ss).toList = unlines (treeLines tree) := by
  induction tree generalizing ss with
  | nil =>
    cases h
    simp [Text.joinWith, treeLines, unlines]
  | cons e rest ih =>
    obtain ⟨key, value⟩ := e
    rw [writeEntries] at h
    obtain ⟨first, hfirst, h⟩ := bind_eq_ok_iff.mp h
    obtain ⟨others, hothers, h⟩ := bind_eq_ok_iff.mp h
    rw [← pure_eq_ok_iff.mp h]
    have ih := ih hothers
    have hfirst := (writeEntry_writes hfirst).2
    cases rest with
    | nil =>
      cases hothers
      simpa [Text.joinWith, treeLines] using hfirst
    | cons e' rest =>
      obtain ⟨second, others, rfl⟩ : ∃ t ts, others = t :: ts := by
        rw [writeEntries] at hothers
        obtain ⟨t, -, hothers⟩ := bind_eq_ok_iff.mp hothers
        obtain ⟨ts, -, hothers⟩ := bind_eq_ok_iff.mp hothers
        exact ⟨t, ts, (pure_eq_ok_iff.mp hothers).symm⟩
      rw [Text.joinWith, String.toList_append, String.toList_append, ih, hfirst, treeLines, unlines_append]
      simp [unlines]

/-- A written tree has writable rows, and its text is made of their lines. -/
theorem write_eq_ok {tree : Tree} {s : String} (h : write tree = .ok s) :
    (∀ r ∈ treeRows 0 tree, r.Writable) ∧ s.toList = unlines (treeLines tree) := by
  rw [write] at h
  obtain ⟨ss, hss, h⟩ := bind_eq_ok_iff.mp h
  rw [← pure_eq_ok_iff.mp h]
  exact ⟨(writeEntries_writes hss).1, joinWith_writes hss⟩

/-! ### The lines of a text -/

theorem toList_step : step.toList = List.replicate 4 ' ' := by simp [step]

theorem toList_margin (depth : Nat) : (margin depth).toList = List.replicate (4 * depth) ' ' := by
  induction depth with
  | zero => simp [margin]
  | succ depth ih =>
    rw [margin, List.replicate_succ, String.join_cons, ← margin, String.toList_append, ih, toList_step,
      List.replicate_append_replicate]
    congr 1
    omega

theorem toList_margin_step (depth : Nat) : (margin depth ++ step).toList = List.replicate (4 * depth + 4) ' ' := by
  rw [String.toList_append, toList_margin, toList_step, List.replicate_append_replicate]

/-- No character of a text ends a line. -/
def OneLine (cs : List Char) : Prop := ∀ c ∈ cs, Text.isLineEnd c = false

theorem OneLine.append {a b : List Char} (ha : OneLine a) (hb : OneLine b) : OneLine (a ++ b) := by
  intro c hc
  rcases List.mem_append.mp hc with hc | hc
  · exact ha c hc
  · exact hb c hc

theorem oneLine_spaces (n : Nat) : OneLine (List.replicate n ' ') := by
  intro c hc
  rw [List.eq_of_mem_replicate hc]
  rfl

theorem oneLine_textLines {start next : List Char} {ps : List (List Char)} (hstart : OneLine start)
    (hnext : OneLine next) (hps : ∀ p ∈ ps, OneLine p) : ∀ l ∈ textLines start next ps, OneLine l := by
  induction ps generalizing start with
  | nil => simp [textLines]
  | cons p ps ih =>
    rw [List.forall_mem_cons] at hps
    cases ps with
    | nil =>
      intro l hl
      rw [List.mem_singleton.mp hl]
      exact hstart.append hps.1
    | cons q ps =>
      rw [textLines, List.forall_mem_cons]
      exact ⟨(hstart.append hps.1).append (by simp [OneLine, Text.isLineEnd]), ih hnext hps.2⟩

theorem Row.Writable.oneLine {r : Row} (h : r.Writable) : ∀ l ∈ r.lines, OneLine l := by
  have hkey : OneLine r.key.toList := fun c hc => ((keyFault?_eq_none_iff.mp h.key).plain c hc).2.2
  have hmargin : OneLine (margin r.depth).toList := by
    rw [toList_margin]
    exact oneLine_spaces _
  unfold Row.lines
  split
  · intro l hl
    rw [List.mem_singleton.mp hl]
    exact hmargin.append (hkey.append (by simp [OneLine, Text.isLineEnd]))
  · rename_i s hs
    refine oneLine_textLines ?_ ?_ fun p hp => ((piecesFault?_eq_none_iff.mp (h.text s hs)).1 p hp).lines
    · exact hmargin.append (hkey.append (by simp [OneLine, Text.isLineEnd]))
    · rw [toList_margin_step]
      exact oneLine_spaces _

theorem lineChars_unlines {ls : List (List Char)} (h : ∀ l ∈ ls, OneLine l) :
    Text.lineChars (unlines ls) = ls.map (· ++ ['\n']) := by
  induction ls with
  | nil => rfl
  | cons l ls ih =>
    rw [List.forall_mem_cons] at h
    have hl : '\n' ∉ l := fun hmem => by simpa [Text.isLineEnd] using h.1 _ hmem
    rw [unlines, List.flatMap_cons, ← unlines, List.append_assoc, List.singleton_append, Text.lineChars_append hl,
      ih h.2, List.map_cons]

/-- The lines that were put into a text are the lines found in it. -/
theorem ofText_unlines {s : String} {ls : List (List Char)} (hs : s.toList = unlines ls)
    (h : ∀ l ∈ ls, OneLine l) : Line.ofText s = ls.map some := by
  rw [Line.ofText, hs, lineChars_unlines h, List.map_map]
  refine List.map_congr_left fun l hl => ?_
  have hend : Text.dropEndWhile Text.isLineEnd (l ++ ['\n']) = l := by
    rw [Text.dropEndWhile_append (by simp [Text.isLineEnd]),
      Text.dropEndWhile_of_last fun c hc => h l hl c (List.mem_of_getLast? hc)]
  simp [hend]

theorem oneLine_treeLines {tree : Tree} (h : ∀ r ∈ treeRows 0 tree, r.Writable) :
    ∀ l ∈ treeLines tree, OneLine l := by
  have hentry : ∀ rows : List Row, (∀ r ∈ rows, r.Writable) → ∀ l ∈ rows.flatMap Row.lines, OneLine l := by
    intro rows hrows l hl
    obtain ⟨r, hr, hl⟩ := List.mem_flatMap.mp hl
    exact (hrows r hr).oneLine l hl
  induction tree with
  | nil => simp [treeLines]
  | cons e rest ih =>
    obtain ⟨key, value⟩ := e
    rw [treeRows, List.forall_mem_append] at h
    cases rest with
    | nil => exact hentry _ h.1
    | cons e' rest =>
      rw [treeLines, List.forall_mem_append, List.forall_mem_cons]
      exact ⟨hentry _ h.1, by simp [OneLine], ih h.2⟩

end Bindery.Outline
