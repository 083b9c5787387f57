import Bindery.Outline.Scan
import Bindery.Proofs.Text.Pieces

/-! # Physical lines

What a logical line takes from its physical ones. The first gives the number of spaces and tabs in front of its text
(`logicalFrom_begin`), all give their trimmed texts (`logicalFrom_continue`), and line ends give nothing, so that the
lines of a text may be taken as what stands between its line feeds (`logicalLines_ofText`). -/

namespace Bindery.Outline

/-- A line that shows a text behind `indent` spaces and tabs; characters that end lines may follow. -/
inductive Shows (indent : Nat) (text : List Char) : List Char → Prop
  | intro {run ends : List Char} (hrun : ∀ c ∈ run, Text.isIndent c = true) (hlength : run.length = indent)
      (hends : ∀ c ∈ ends, Text.isLineEnd c = true) : Shows indent text (run ++ text ++ ends)

variable {i n : Nat} {text l l' pending : List Char} {rest : List Line}

theorem isBlank_of_isLineEnd {c : Char} (h : Text.isLineEnd c = true) : Text.isBlank c = true := by
  rw [Text.isLineEnd, Bool.or_eq_true, beq_iff_eq, beq_iff_eq] at h
  rcases h with rfl | rfl <;> rfl

/-- Every line shows what stands behind its spaces and tabs, whatever ends it. -/
theorem shows_dropWhile (l ends : List Char) (hends : ∀ c ∈ ends, Text.isLineEnd c = true) :
    Shows (l.takeWhile Text.isIndent).length (l.dropWhile Text.isIndent) (l ++ ends) := by
  have hline : Shows (l.takeWhile Text.isIndent).length (l.dropWhile Text.isIndent)
      (l.takeWhile Text.isIndent ++ l.dropWhile Text.isIndent ++ ends) :=
    .intro (List.all_eq_true.mp List.all_takeWhile) rfl hends
  rwa [List.takeWhile_append_dropWhile] at hline

theorem Shows.trimChars (h : Shows i text l) : Text.trimChars l = Text.trimChars text := by
  obtain ⟨hrun, -, hends⟩ := h
  rw [List.append_assoc, Text.trimChars_append fun c hc => Text.isBlank_of_isIndent (hrun c hc),
    Text.trimChars_append_right fun c hc => isBlank_of_isLineEnd (hends c hc)]

theorem Shows.isSilent (h : Shows i text l) : isSilent l = isSilent text := by
  rw [Outline.isSilent, h.trimChars, Outline.isSilent]

theorem Shows.length_takeWhile (h : Shows i text l) (hhead : ∀ c ∈ text.head?, Text.isIndent c = false)
    (hsilent : Outline.isSilent text = false) : (l.takeWhile Text.isIndent).length = i := by
  obtain ⟨hrun, hlength, -⟩ := h
  cases text with
  | nil => cases hsilent
  | cons c text =>
    rw [List.append_assoc, List.takeWhile_append_of_pos hrun, List.cons_append,
      List.takeWhile_cons_of_neg (by simp [hhead c rfl]), List.append_nil, hlength]

/-- A line that says something begins a logical line at its column. -/
theorem logicalFrom_begin (h : Shows i text l) (hhead : ∀ c ∈ text.head?, Text.isIndent c = false)
    (hsilent : isSilent text = false) (n : Nat) (rest : List Line) :
    logicalFrom n none (some l :: rest) =
      if isContinued (Text.trimChars text) then logicalFrom (n + 1) (some (n + 1, i, Text.trimChars text)) rest
      else .content (n + 1) i (some (Text.trimChars text)) :: logicalFrom (n + 1) none rest := by
  rw [logicalFrom, h.length_takeWhile hhead hsilent, h.isSilent, h.trimChars, hsilent]
  rfl

theorem logicalFrom_silent (h : isSilent l = true) (n : Nat) (rest : List Line) :
    logicalFrom n none (some l :: rest) = logicalFrom (n + 1) none rest := by
  rw [logicalFrom, if_pos h]

theorem isContinued_continueWith (pending next : List Char) :
    isContinued (continueWith pending next) = isContinued (Text.trimChars next) := by
  rw [isContinued, isContinued, continueWith, List.getLast?_append]
  cases (Text.trimChars next).getLast? with
  | none => simp [joiner]
  | some c => rfl

/-- A line that continues another one gives its trimmed text, and is continued itself according to that text. -/
theorem logicalFrom_continue (h : Shows i text l) (n number indent : Nat) (pending : List Char) (rest : List Line) :
    logicalFrom n (some (number, indent, pending)) (some l :: rest) =
      if isContinued (Text.trimChars text) then
        logicalFrom (n + 1) (some (number, indent, continueWith pending text)) rest
      else .content number indent (some (continueWith pending text)) :: logicalFrom (n + 1) none rest := by
  have htext : continueWith pending l = continueWith pending text := by rw [continueWith, h.trimChars, continueWith]
  rw [logicalFrom, htext, isContinued_continueWith]

/-! ### The lines of a text -/

/-- Lines that show the same make the same logical lines. -/
theorem logicalFrom_cons_congr (h : Shows i text l) (h' : Shows i text l')
    (hhead : ∀ c ∈ text.head?, Text.isIndent c = false) {pending : Option (Nat × Nat × List Char)} {rest' : List Line}
    (hrest : ∀ pending, logicalFrom (n + 1) pending rest = logicalFrom (n + 1) pending rest') :
    logicalFrom n pending (some l :: rest) = logicalFrom n pending (some l' :: rest') := by
  cases pending with
  | none =>
    cases hsilent : isSilent text with
    | true => rw [logicalFrom_silent (h.isSilent.trans hsilent), logicalFrom_silent (h'.isSilent.trans hsilent), hrest]
    | false =>
      rw [logicalFrom_begin h hhead hsilent, logicalFrom_begin h' hhead hsilent]
      simp only [hrest]
  | some line =>
    obtain ⟨number, indent, pending⟩ := line
    rw [logicalFrom_continue h, logicalFrom_continue h']
    simp only [hrest]

/-- What stands between the line feeds of a text. -/
def physicalLines (s : String) : List (List Char) := Text.splitWhere (· == '\n') s.toList

theorem logicalFrom_dropEndWhile (l ends : List Char) (hends : ∀ c ∈ ends, Text.isLineEnd c = true)
    (pending : Option (Nat × Nat × List Char)) {rest' : List Line}
    (hrest : ∀ pending, logicalFrom (n + 1) pending rest = logicalFrom (n + 1) pending rest') :
    logicalFrom n pending (some (Text.dropEndWhile Text.isLineEnd (l ++ ends)) :: rest) =
      logicalFrom n pending (some l :: rest') := by
  obtain ⟨more, hl, hmore⟩ := Text.exists_eq_dropEndWhile_append Text.isLineEnd l
  have hbare := shows_dropWhile (Text.dropEndWhile Text.isLineEnd l) [] (by simp)
  have hwhole := shows_dropWhile (Text.dropEndWhile Text.isLineEnd l) more hmore
  rw [List.append_nil] at hbare
  rw [← hl] at hwhole
  rw [Text.dropEndWhile_append hends]
  exact logicalFrom_cons_congr hbare hwhole Text.head?_dropWhile hrest

/-- Line ends may be left on the lines, and an empty line behind the last line feed may be read or not. -/
theorem logicalFrom_splitWhere {cs : List Char} {ls : List (List Char)} (h : Text.IsLines cs ls)
    (pending : Option (Nat × Nat × List Char)) (n : Nat) :
    logicalFrom n pending (ls.map fun l => some (Text.dropEndWhile Text.isLineEnd l)) =
      logicalFrom n pending ((Text.splitWhere (· == '\n') cs).map some) := by
  have hpiece : ∀ {l : List Char}, '\n' ∉ l → Text.splitWhere (· == '\n') l = [l] := fun hfeed =>
    Text.splitWhere_of_forall fun c hc => by simpa using ne_of_mem_of_not_mem hc hfeed
  induction h generalizing pending n with
  | nil =>
    -- An empty text has one piece, which ends a pending line as the end of the text does.
    rcases pending with _ | ⟨number, indent, pending⟩
    · rfl
    · exact (logicalFrom_continue (shows_dropWhile [] [] (by simp)) n number indent pending []).symm
  | @last l hne hfeed =>
    have hlast := logicalFrom_dropEndWhile l [] (by simp) pending fun pending => Eq.refl (logicalFrom (n + 1) pending [])
    rw [List.append_nil] at hlast
    rwa [hpiece hfeed]
  | @line l cs ls hfeed _ ih =>
    rw [Text.splitWhere_append_cons rfl, hpiece hfeed]
    exact logicalFrom_dropEndWhile l ['\n'] (by simp [Text.isLineEnd]) pending fun pending => ih pending (n + 1)

/-- The logical lines of a text can be read off from what stands between its line feeds. -/
theorem logicalLines_ofText (s : String) : logicalLines (Line.ofText s) = logicalLines ((physicalLines s).map some) :=
  logicalFrom_splitWhere (Text.isLines_lineChars s.toList) none 0

end Bindery.Outline
