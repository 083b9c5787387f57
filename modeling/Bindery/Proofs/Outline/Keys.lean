import Bindery.Proofs.Outline.Held

/-! # The keys of an outline and those of its tree

All lines are taken to have keys, no two alike. A reader then holds the keys of all lines it has read, and
at the end its tree does. There is one exception: lines that begin deeper than the outermost column are
gathered in the frame with which a reader starts, and a later line at the outermost column ends that frame
without storing its value (`Gathers.line_outermost`). -/

namespace Bindery.Outline
open Attr (Value Tree)

/-! ### Columns -/

/-- Columns that are open, the innermost first: they become smaller down to the outermost one. -/
inductive Columns : List Nat → Prop
  | outermost : Columns [0]
  | deeper {i j : Nat} {cols : List Nat} (h : Columns (j :: cols)) (hlt : j < i) : Columns (i :: j :: cols)

section Columns
variable {i : Nat} {cols cols' : List Nat} {moves : List Token}

theorem Columns.length_pos (h : Columns cols) : 0 < cols.length := by
  cases h <;> exact Nat.succ_pos _

theorem Columns.length_eq_one_iff (h : Columns cols) (hhead : cols.head? = some i) :
    cols.length = 1 ↔ i = 0 := by
  cases h with
  | outermost =>
    cases hhead
    exact iff_of_true rfl rfl
  | deeper _ hlt =>
    cases hhead
    exact iff_of_false (by simp) (by omega)

theorem Columns.closeTo (h : Columns cols)
    (hmoves : Outline.closeTo i cols = some (moves, cols')) :
    Columns cols' ∧ cols'.head? = some i ∧ ∃ n, moves = List.replicate n .dedent ∧ n + cols'.length = cols.length := by
  induction h generalizing moves with
  | outermost =>
    rw [Outline.closeTo] at hmoves
    split at hmoves
    · cases hmoves
    · split at hmoves
      · rename_i hi
        cases hmoves
        exact ⟨.outermost, by rw [hi]; rfl, 0, rfl, rfl⟩
      · cases hmoves
  | deeper h hlt ih =>
    rw [Outline.closeTo] at hmoves
    split at hmoves
    · obtain ⟨⟨ts, cols⟩, hbelow, heq⟩ := Option.map_eq_some_iff.mp hmoves
      cases heq
      obtain ⟨hcols, hhead, n, rfl, hn⟩ := ih hbelow
      exact ⟨hcols, hhead, n + 1, rfl, by rw [Nat.add_right_comm, hn]; rfl⟩
    · split at hmoves
      · rename_i hi
        cases hmoves
        exact ⟨.deeper h hlt, by rw [hi]; rfl, 0, rfl, Nat.zero_add _⟩
      · cases hmoves

/-- A line opens one block or closes some, and then stands at the innermost column. -/
theorem Columns.reindent (h : Columns cols)
    (hmoves : Outline.reindent i cols = some (moves, cols')) :
    Columns cols' ∧ cols'.head? = some i ∧
      (moves = [.indent] ∧ cols'.length = cols.length + 1 ∨
        ∃ n, moves = List.replicate n .dedent ∧ n + cols'.length = cols.length) := by
  unfold Outline.reindent at hmoves
  split at hmoves
  · cases hmoves
  · split at hmoves
    · rename_i hlt
      cases hmoves
      exact ⟨.deeper h hlt, rfl, Or.inl ⟨rfl, rfl⟩⟩
    · obtain ⟨hcols, hhead, hn⟩ := h.closeTo hmoves
      exact ⟨hcols, hhead, Or.inr hn⟩

end Columns

/-! ### Lines -/

/-- The column of a line. -/
def Logical.column : Logical → Nat
  | .content _ indent _ => indent
  | .unreadable => 0

/-- The keys that are written on a line. -/
def Logical.keys : Logical → List String
  | .content _ _ (some text) => lineKeys text
  | .content _ _ none | .unreadable => []

/-- Whether a line has keys, and not just a text. -/
def Logical.hasKeys : Logical → Bool
  | .content _ _ (some text) => text.contains ':'
  | .content _ _ none | .unreadable => false

theorem Logical.keys_ne_nil {l : Logical} (h : l.hasKeys = true) : l.keys ≠ [] := by
  cases l with
  | unreadable => cases h
  | content number indent text =>
    cases text with
    | none => cases h
    | some text => exact lineKeys_ne_nil (by simpa [hasKeys] using h)

namespace Reader
variable {r r' : Reader} {v : Value} {deep : Bool} {ks : List String} {i : Nat}

/-- What a line with keys does to a reader: it ends the innermost frame, storing it if it has keys, and opens
one for its own keys, with a value that has none. -/
theorem feedAll_lineTokens {text : List Char} {ts : List Token} (hcolon : ':' ∈ text) (hts : textTokens text = some ts)
    (hok : r.feedAll ts = .ok r') :
    ∃ r₀ f r₁ v, r = r₀.push f ∧ (f.isNamed = true ∧ Fed r .dedent r₁ ∨ f.isNamed = false ∧ r₁ = r₀) ∧
      v.keys = [] ∧ r' = r₁.push ⟨lineKeys text, some v⟩ := by
  obtain ⟨us, rfl, hus⟩ : ∃ us, ts = .key (lineKeys text) :: us ∧ (us = [] ∨ ∃ s, us = [.indent, .text s, .dedent]) :=
    (textTokens_cases hts).elim (fun h => absurd hcolon h.1) (fun h => h.2)
  obtain ⟨r₂, hfed, hok⟩ := feedAll_cons_eq_ok hok
  -- The tokens that follow give the new frame its value.
  have hvalue : ∀ r₁ : Reader, r₂ = r₁.push (.named (lineKeys text)) →
      ∃ v : Value, v.keys = [] ∧ r' = r₁.push ⟨lineKeys text, some v⟩ := by
    rintro r₁ rfl
    rcases hus with rfl | ⟨s, rfl⟩ <;> cases hok
    · exact ⟨.empty, Value.keys_empty, rfl⟩
    · exact ⟨.text s, Value.keys_text s, rfl⟩
  cases hfed with
  | key_named _ hf htop =>
    obtain ⟨v, hv, rfl⟩ := hvalue _ rfl
    exact ⟨_, _, _, v, rfl, Or.inl ⟨hf, .dedent_named hf htop⟩, hv, rfl⟩
  | key_anonymous r₀ _ hf =>
    obtain ⟨v, hv, rfl⟩ := hvalue _ rfl
    exact ⟨_, _, _, v, rfl, Or.inr ⟨hf, rfl⟩, hv, rfl⟩

/-- A reader takes in a line with keys, and the open columns become those at it. -/
inductive Taken (r : Reader) (cols : List Nat) : Logical → Reader → List Nat → Prop
  | line {number indent : Nat} {text : List Char} {moves ts : List Token} {r' : Reader} {cols' : List Nat}
      (hmoves : Outline.reindent indent cols = some (moves, cols')) (hcolon : ':' ∈ text)
      (hts : textTokens text = some ts) (hok : r.feedAll (moves ++ ts) = .ok r') :
      Taken r cols (.content number indent (some text)) r' cols'

/-- The frames of a reader are nested, and there is one for each open column. -/
structure Gathers (deep : Bool) (r : Reader) (cols : List Nat) : Prop where
  nest : Nest deep r
  columns : Columns cols
  length_frames : r.frames.length = cols.length

section Line
variable {name : String} {cols cols' : List Nat} {moves : List Token} {l : Logical} {ls : List Logical}

theorem gathers_start : Gathers true start [0] := ⟨.start none, .outermost, rfl⟩

theorem Gathers.taken (h : Gathers deep r cols) (hline : Taken r cols l r' cols') :
    Columns cols' ∧ r'.frames.length = cols'.length := by
  cases hline with
  | line hmoves _ hts hok =>
    obtain ⟨hne, hleads⟩ := reindent_leads hmoves
    rw [← h.length_frames] at hleads
    exact ⟨(h.columns.reindent hmoves).1, length_frames_of_feedAll hok
      (leads_append_iff.mpr ⟨_, hleads, textTokens_leads hts (List.length_pos_iff.mpr hne)⟩)⟩

theorem Gathers.reindent (h : Gathers deep r cols) (hmoves : Outline.reindent i cols = some (moves, cols'))
    (hok : r.feedAll moves = .ok r') :
    r' = r.push .anonymous ∧ i ≠ 0 ∨
      Nest deep r' ∧ (r'.frames.length = 1 ↔ i = 0) ∧ ∀ k, k ∈ r'.held ↔ k ∈ r.held := by
  obtain ⟨hcols', hhead, hmove⟩ := h.columns.reindent hmoves
  have hzero := hcols'.length_eq_one_iff hhead
  have hpos := h.columns.length_pos
  have hlen := h.length_frames
  rcases hmove with ⟨rfl, hlen'⟩ | ⟨n, rfl, hn⟩
  · cases hok
    exact Or.inl ⟨rfl, by omega⟩
  · have hpos' := hcols'.length_pos
    have hdeep : deep.toNat ≤ 1 := Bool.toNat_le deep
    obtain ⟨hheld, hnest⟩ := h.nest.dedents (by omega) hok
    have hleads : Leads r.frames.length (List.replicate n .dedent) cols'.length := by
      rw [hlen]
      exact (reindent_leads hmoves).2
    rw [← length_frames_of_feedAll hok hleads] at hzero
    exact Or.inr ⟨hnest (by omega), hzero, hheld⟩

theorem Nest.open (h : Nest deep r) (hkeys : ks ≠ []) (hfresh : Fresh r ks) (hv : v.keys = []) :
    Nest deep (r.push ⟨ks, some v⟩) ∧ ∀ k, k ∈ (r.push ⟨ks, some v⟩).held ↔ k ∈ r.held ∨ k ∈ ks := by
  refine ⟨h.push (by simpa [Frame.isNamed] using hkeys) hfresh, fun k => ?_⟩
  rw [held_push, Frame.held, Option.getD_some, hv, List.append_nil, List.mem_append, or_comm]

/-- What is left of a reader below the frame that a line with keys opens: all it holds, unless the line stands at
the outermost column and ends the frame with which a reader starts. -/
theorem Gathers.below (h : Gathers deep r cols) (hline : Taken r cols l r' cols') :
    ∃ r₁ v, v.keys = [] ∧ r' = r₁.push ⟨l.keys, some v⟩ ∧
      (deep = true ∧ l.column = 0 ∧ r₁ = ⟨[], some .empty⟩ ∨
        (deep = true → l.column ≠ 0) ∧ Nest deep r₁ ∧ ∀ k, k ∈ r₁.held ↔ k ∈ r.held) := by
  cases hline with
  | line hmoves hcolon hts hok =>
    rw [feedAll_append, bind_eq_ok_iff] at hok
    obtain ⟨r₁, hmoved, hok⟩ := hok
    obtain ⟨r₀, f, r₂, v, rfl, hended, hv, rfl⟩ := feedAll_lineTokens hcolon hts hok
    refine ⟨r₂, v, hv, rfl, ?_⟩
    rcases h.reindent hmoves hmoved with ⟨heq, hne⟩ | ⟨hnest, hzero, hheld⟩
    · -- The line ends the frame of the block that it opens itself.
      obtain ⟨rfl, rfl⟩ := push_inj.mp heq
      rcases hended with ⟨hf, -⟩ | ⟨-, rfl⟩
      · cases hf
      · exact Or.inr ⟨fun _ => hne, h.nest, fun k => Iff.rfl⟩
    · rcases hended with ⟨hf, hfed⟩ | ⟨hf, rfl⟩
      · obtain ⟨hheld', hnest'⟩ := hnest.dedent hfed
        have hlt := Nat.lt_succ_of_le (hnest.of_push_named hf).1.toNat_le
        refine Or.inr ⟨fun hdeep hcol => ?_, hnest' hlt, fun k => (hheld' k).trans (hheld k)⟩
        have hlen := hzero.mpr hcol
        rw [length_frames_push] at hlen
        rw [hdeep, Bool.toNat_true] at hlt
        omega
      · obtain ⟨hdeep, rfl⟩ := hnest.of_push_anonymous hf
        exact Or.inl ⟨hdeep, hzero.mp rfl, rfl⟩

/-- A line with keys adds them to those that a reader holds, or takes the place of all of them. -/
theorem Gathers.line (h : Gathers deep r cols) (hline : Taken r cols l r' cols') (hl : l.keys ≠ [])
    (hfresh : Fresh r l.keys) (hdeep : deep = true → l.column ≠ 0) :
    Gathers deep r' cols' ∧ ∀ k, k ∈ r'.held ↔ k ∈ r.held ∨ k ∈ l.keys := by
  obtain ⟨hcols', hlen'⟩ := h.taken hline
  obtain ⟨r₁, v, hv, rfl, ⟨hd, hcol, -⟩ | ⟨-, hnest, hheld⟩⟩ := h.below hline
  · exact absurd hcol (hdeep hd)
  · obtain ⟨hopen, hadd⟩ := hnest.open hl (hfresh.of_held fun k => (hheld k).mp) hv
    exact ⟨⟨hopen, hcols', hlen'⟩, fun k => (hadd k).trans (or_congr_left (hheld k))⟩

theorem Gathers.line_outermost (h : Gathers true r cols) (hline : Taken r cols l r' cols') (hl : l.keys ≠ [])
    (hfresh : Fresh r l.keys) (hzero : l.column = 0) :
    Gathers false r' cols' ∧ ∀ k, k ∈ r'.held ↔ k ∈ l.keys := by
  obtain ⟨hcols', hlen'⟩ := h.taken hline
  obtain ⟨r₁, v, hv, rfl, ⟨-, -, rfl⟩ | ⟨hne, -⟩⟩ := h.below hline
  · have hnone : ∀ k, k ∉ held ⟨[], some .empty⟩ := by simp [held]
    obtain ⟨hopen, hadd⟩ := (Nest.root (some .empty)).open hl (hfresh.of_held fun k hk => absurd hk (hnone k)) hv
    exact ⟨⟨hopen, hcols', hlen'⟩, fun k => (hadd k).trans (or_iff_right (hnone k))⟩
  · exact absurd hzero (hne rfl)

/-! ### Sequences of lines -/

theorem exists_taken (hl : l.hasKeys = true) (hscan : (scanLogical name cols (l :: ls)).failure = none)
    (hok : r.feedAll (scanLogical name cols (l :: ls)).tokens = .ok r') :
    ∃ r₁ cols', Taken r cols l r₁ cols' ∧ (scanLogical name cols' ls).failure = none ∧
      r₁.feedAll (scanLogical name cols' ls).tokens = .ok r' := by
  obtain ⟨number, indent, text, moves, cols', ts, rfl, hmoves, hts, hscan, htokens⟩ := scanLogical_cons hscan
  rw [htokens, feedAll_append, bind_eq_ok_iff] at hok
  obtain ⟨r₁, hline, hok⟩ := hok
  exact ⟨r₁, cols', .line hmoves (by simpa [Logical.hasKeys] using hl) hts hline, hscan, hok⟩

/-- Lines with keys add them all to those that a reader holds, unless one of them ends the frame with which a
reader starts. -/
theorem Gathers.lines (h : Gathers deep r cols) (hls : ∀ l ∈ ls, l.hasKeys = true)
    (hfresh : Fresh r (ls.flatMap Logical.keys)) (hdeep : deep = true → ∀ l ∈ ls, l.column ≠ 0)
    (hscan : (scanLogical name cols ls).failure = none)
    (hok : r.feedAll (scanLogical name cols ls).tokens = .ok r') :
    ∀ k, k ∈ r'.held ↔ k ∈ r.held ∨ k ∈ ls.flatMap Logical.keys := by
  induction ls generalizing r cols with
  | nil =>
    rw [scanLogical, ← h.length_frames] at hok
    simpa using (h.nest.dedents (Nat.le_refl _) hok).1
  | cons l ls ih =>
    rw [List.forall_mem_cons] at hls
    obtain ⟨r₁, cols', hline, hscan, hok⟩ := exists_taken hls.1 hscan hok
    rw [List.flatMap_cons] at hfresh
    obtain ⟨hnext, hadd⟩ := h.line hline (Logical.keys_ne_nil hls.1) hfresh.left fun hd =>
      hdeep hd l (List.mem_cons_self ..)
    have hrest := ih hnext hls.2 (hfresh.right fun k => (hadd k).mp)
      (fun hd l' hl' => hdeep hd l' (List.mem_cons_of_mem l hl')) hscan hok
    intro k
    rw [hrest, hadd, List.flatMap_cons, List.mem_append, or_assoc]

/-- If some line stands at the outermost column, a reader that still has the frame with which it starts keeps
the keys from that line on. -/
theorem Gathers.lines_outermost (h : Gathers true r cols) (hls : ∀ l ∈ ls, l.hasKeys = true)
    (hfresh : Fresh r (ls.flatMap Logical.keys)) (hzero : ∃ l ∈ ls, l.column = 0)
    (hscan : (scanLogical name cols ls).failure = none)
    (hok : r.feedAll (scanLogical name cols ls).tokens = .ok r') :
    ∀ k, k ∈ r'.held ↔ k ∈ (ls.dropWhile (·.column != 0)).flatMap Logical.keys := by
  induction ls generalizing r cols with
  | nil =>
    obtain ⟨l, hl, -⟩ := hzero
    cases hl
  | cons l ls ih =>
    rw [List.forall_mem_cons] at hls
    obtain ⟨r₁, cols', hline, hscan, hok⟩ := exists_taken hls.1 hscan hok
    rw [List.flatMap_cons] at hfresh
    intro k
    by_cases hl : l.column = 0
    · obtain ⟨hnext, hadd⟩ := h.line_outermost hline (Logical.keys_ne_nil hls.1) hfresh.left hl
      have hrest := hnext.lines hls.2 (hfresh.right fun k hk => Or.inr ((hadd k).mp hk)) (fun hd => by cases hd)
        hscan hok
      rw [hrest, hadd, List.dropWhile_cons_of_neg (by simpa using hl), List.flatMap_cons, List.mem_append]
    · obtain ⟨hnext, hadd⟩ := h.line hline (Logical.keys_ne_nil hls.1) hfresh.left fun _ => hl
      have hzero' : ∃ l' ∈ ls, l'.column = 0 := by simpa [hl] using hzero
      rw [ih hnext hls.2 (hfresh.right fun k => (hadd k).mp) hzero' hscan hok,
        List.dropWhile_cons_of_pos (by simpa using hl)]

end Line
end Reader

/-! ### Texts -/

/-- The lines of which a reader keeps the keys: if one of them stands at the outermost column, the lines before
it are lost. -/
def kept (ls : List Logical) : List Logical :=
  if ls.any (·.column == 0) then ls.dropWhile (·.column != 0) else ls

/-- Whether the first line stands deeper than a later one at the outermost column. -/
def startsDeep (ls : List Logical) : Bool := ls.head?.any (·.column != 0) && ls.any (·.column == 0)

theorem kept_of_startsDeep_eq_false {ls : List Logical} (h : startsDeep ls = false) : kept ls = ls := by
  cases ls with
  | nil => rfl
  | cons l ls =>
    unfold kept
    split
    · rename_i hany
      rw [startsDeep, hany, Bool.and_true] at h
      rw [List.dropWhile_cons_of_neg (by simpa using h)]
    · rfl

/-- The keys of the first line are lost if it stands deeper than a later one at the outermost column. -/
theorem exists_lost_of_startsDeep {ls : List Logical} (hls : ∀ l ∈ ls, l.hasKeys = true)
    (hdistinct : (ls.flatMap Logical.keys).Nodup) (h : startsDeep ls = true) :
    ∃ k ∈ ls.flatMap Logical.keys, k ∉ (kept ls).flatMap Logical.keys := by
  cases ls with
  | nil => cases h
  | cons l ls =>
    rw [startsDeep, Bool.and_eq_true] at h
    obtain ⟨hdeep, hany⟩ := h
    obtain ⟨k, hk⟩ := List.exists_mem_of_ne_nil _ (Logical.keys_ne_nil (hls l (List.mem_cons_self ..)))
    refine ⟨k, List.mem_append_left _ hk, fun hmem => ?_⟩
    rw [kept, if_pos hany, List.dropWhile_cons_of_pos (by simpa using hdeep)] at hmem
    obtain ⟨l', hl', hk'⟩ := List.mem_flatMap.mp hmem
    have hrest : k ∈ ls.flatMap Logical.keys :=
      List.mem_flatMap.mpr ⟨l', (List.dropWhile_sublist _).subset hl', hk'⟩
    rw [List.flatMap_cons] at hdistinct
    exact (List.nodup_append.mp hdistinct).2.2 k hk k hrest rfl

/-- The logical lines of a text. -/
def Logical.ofText (s : String) : List Logical := logicalLines (Line.ofText s)

theorem held_of_finish {r : Reader} {tree : Tree} (hframes : r.frames = []) (h : r.finish = .ok tree) :
    r.held = Attr.keys tree := by
  obtain ⟨frames, root⟩ := r
  cases hframes
  unfold Reader.finish at h
  simp only [Reader.openFrames] at h
  split at h
  · cases h
    rfl
  · cases h
    simp [Reader.held]
  · cases h

theorem mem_keys_of_read {s : String} {tree : Tree} (hkeys : ∀ l ∈ Logical.ofText s, l.hasKeys = true)
    (hdistinct : ((Logical.ofText s).flatMap Logical.keys).Nodup) (h : read s = .ok tree) {k : String} :
    k ∈ Attr.keys tree ↔ k ∈ (kept (Logical.ofText s)).flatMap Logical.keys := by
  obtain ⟨r, hscan, hread, hfinish⟩ := read_eq_ok h
  have hframes : r.frames = [] :=
    List.length_eq_zero_iff.mp (Reader.length_frames_of_feedAll hread (scan_leads hscan))
  have hnone : ∀ k, k ∉ Reader.start.held := by simp [Reader.held, Reader.start, Frame.held, Frame.anonymous]
  have hfresh : Reader.Fresh Reader.start ((Logical.ofText s).flatMap Logical.keys) := ⟨hdistinct, fun k _ => hnone k⟩
  rw [← held_of_finish hframes hfinish, kept]
  split
  · rename_i hany
    exact Reader.gathers_start.lines_outermost hkeys hfresh (by simpa using hany) hscan hread k
  · rename_i hany
    rw [Reader.gathers_start.lines hkeys hfresh (fun _ => by simpa using hany) hscan hread k]
    exact or_iff_right (hnone k)

/-- The keys of a tree that is read from lines with keys, no two alike: they are those of the lines from the
first one at the outermost column on, or of all lines if there is none. So every key has its place in the tree
unless the text begins deeper than at a later line at the outermost column. -/
theorem keys_of_read {s : String} {tree : Tree} (hkeys : ∀ l ∈ Logical.ofText s, l.hasKeys = true)
    (hdistinct : ((Logical.ofText s).flatMap Logical.keys).Nodup) (h : read s = .ok tree) :
    (∀ k, k ∈ Attr.keys tree ↔ k ∈ (kept (Logical.ofText s)).flatMap Logical.keys) ∧
      ((∀ k ∈ (Logical.ofText s).flatMap Logical.keys, k ∈ Attr.keys tree) ↔
        startsDeep (Logical.ofText s) = false) := by
  have hkept : ∀ k, k ∈ Attr.keys tree ↔ k ∈ (kept (Logical.ofText s)).flatMap Logical.keys :=
    fun k => mem_keys_of_read hkeys hdistinct h
  refine ⟨hkept, fun hall => ?_, fun hdeep k hk => ?_⟩
  · rw [← Bool.not_eq_true]
    intro hdeep
    obtain ⟨k, hk, hlost⟩ := exists_lost_of_startsDeep hkeys hdistinct hdeep
    exact hlost ((hkept k).mp (hall k hk))
  · rwa [hkept, kept_of_startsDeep_eq_false hdeep]

theorem keys_of_read_deep :
    (∀ l ∈ Logical.ofText "  a:\n    b, c: x\n    d:\n  e: y\n", l.hasKeys = true) ∧
      (Logical.ofText "  a:\n    b, c: x\n    d:\n  e: y\n").flatMap Logical.keys = ["a", "b", "c", "d", "e"] ∧
      read "  a:\n    b, c: x\n    d:\n  e: y\n" =
        .ok [("a", .map [("b", .text "x"), ("c", .text "x"), ("d", .map [])]), ("e", .text "y")] ∧
      ∀ k ∈ ["a", "b", "c", "d", "e"],
        k ∈ Attr.keys [("a", .map [("b", .text "x"), ("c", .text "x"), ("d", .map [])]), ("e", .text "y")] := by
  have hkeys : ∀ l ∈ Logical.ofText "  a:\n    b, c: x\n    d:\n  e: y\n", l.hasKeys = true := by decide +kernel
  have hwritten : (Logical.ofText "  a:\n    b, c: x\n    d:\n  e: y\n").flatMap Logical.keys =
      ["a", "b", "c", "d", "e"] := by decide +kernel
  have hread : read "  a:\n    b, c: x\n    d:\n  e: y\n" =
      .ok [("a", .map [("b", .text "x"), ("c", .text "x"), ("d", .map [])]), ("e", .text "y")] := by decide +kernel
  have hall := (keys_of_read hkeys (by rw [hwritten]; decide) hread).2.mpr (by decide +kernel)
  rw [hwritten] at hall
  exact ⟨hkeys, hwritten, hread, hall⟩

/-- Not every key of a text has its place in the tree. -/
theorem read_loses_keys :
    ¬∀ (s : String) (tree : Tree), (∀ l ∈ Logical.ofText s, l.hasKeys = true) →
      ((Logical.ofText s).flatMap Logical.keys).Nodup → read s = .ok tree →
      ∀ k ∈ (Logical.ofText s).flatMap Logical.keys, k ∈ Attr.keys tree := by
  intro h
  have ha : "a" ∈ Attr.keys [("b", .text "y")] :=
    h "  a: x\nb: y\n" _ (by decide +kernel) (by decide +kernel) (by decide +kernel) "a" (by decide +kernel)
  simp [Attr.keys] at ha

end Bindery.Outline
