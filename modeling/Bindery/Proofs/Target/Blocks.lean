import Bindery.Proofs.Entries
import Bindery.Proofs.Target.Completion
import Bindery.Proofs.Text.Pieces
import Mathlib.Data.List.Infix

/-! # Filling blocks

A target that works by blocks makes its output of the lines of its inputs: a line that is nothing but a marker gives
way to the content of a block, every other line stays as it is. A block is rendered where it is first named, and its
content is used wherever it is named again; the first failure ends the run. -/

namespace Bindery

/-! ### Marker lines -/

namespace Marker

/-- Without the blanks at its ends a line is the sigil between percent signs, with a colon and a name or without. -/
inductive Names (sigil line : String) : BlockName → Prop
  | bare (h : Text.trim line = "%" ++ sigil ++ "%") : Names sigil line .functions
  | unnamed (h : Text.trim line = "%" ++ sigil ++ ":%") : Names sigil line .functions
  | named {name : String} (hne : name ≠ "") (hword : name.toList.all isNameChar = true)
      (h : Text.trim line = "%" ++ sigil ++ ":" ++ name ++ "%") : Names sigil line ⟨name⟩

theorem blockAfter?_eq_some_iff {cs : List Char} {b : BlockName} :
    blockAfter? cs = some b ↔
      cs = ['%'] ∧ b = .functions ∨
        ∃ name : String, name.toList.all isNameChar = true ∧ cs = ':' :: (name.toList ++ ['%']) ∧ b = .ofText name := by
  constructor
  · intro h
    unfold blockAfter? at h
    split at h
    · exact Or.inl ⟨rfl, (Option.some.inj h).symm⟩
    · rename_i rest
      split at h
      · rename_i hrest
        have hsplit : rest.dropLast ++ ['%'] = rest := List.dropLast_append_getLast? '%' hrest.1
        refine Or.inr ⟨String.ofList rest.dropLast, ?_, ?_, (Option.some.inj h).symm⟩
        · rw [String.toList_ofList]
          exact hrest.2
        · rw [String.toList_ofList, hsplit]
      · cases h
    · cases h
  · rintro (⟨rfl, rfl⟩ | ⟨name, hword, rfl, rfl⟩)
    · rfl
    · simp [blockAfter?, hword]

/-- A line is recognised if and only if it is a marker. -/
theorem block?_eq_some_iff {m : Marker} {line : String} {b : BlockName} :
    m.block? line = some b ↔ Names m.sigil line b := by
  have htrim : ∀ s : String, Text.trim line = s ↔ Text.trimChars line.toList = s.toList := by
    intro s
    rw [← String.toList_inj, Text.trim, String.toList_ofList]
  rw [block?, Option.bind_eq_some_iff]
  simp only [List.isPrefixOf?_eq_some_iff_append_eq]
  constructor
  · rintro ⟨rest, hrest, hb⟩
    rcases blockAfter?_eq_some_iff.mp hb with ⟨rfl, rfl⟩ | ⟨name, hword, rfl, rfl⟩
    · exact .bare ((htrim _).mpr (by simp [← hrest]))
    · by_cases hname : name = ""
      · subst hname
        exact .unnamed ((htrim _).mpr (by simp [← hrest]))
      · rw [BlockName.ofText, if_neg hname]
        exact .named hname hword ((htrim _).mpr (by simp [← hrest]))
  · intro h
    cases h with
    | bare h => exact ⟨['%'], by simp [(htrim _).mp h], rfl⟩
    | unnamed h => exact ⟨[':', '%'], by simp [(htrim _).mp h], rfl⟩
    | @named name hne hword h =>
      refine ⟨':' :: (name.toList ++ ['%']), by simp [(htrim _).mp h], ?_⟩
      exact blockAfter?_eq_some_iff.mpr (Or.inr ⟨name, hword, rfl, by rw [BlockName.ofText, if_neg hne]⟩)

example : block? ⟨"STIMULUS"⟩ "\t%STIMULUS:%  \r\n" = some .functions := by decide

theorem not_isBlank_of_isSigilChar {c : Char} (h : Config.isSigilChar c = true) : Text.isBlank c = false := by
  unfold Config.isSigilChar at h
  delta Char.isAlphanum Char.isAlpha Char.isUpper Char.isLower Char.isDigit at h
  simp only [Bool.or_eq_true, Bool.and_eq_true, decide_eq_true_eq, beq_iff_eq, ge_iff_le, UInt32.le_iff_toNat_le] at h
  rcases h with h | rfl
  · simp [Text.isBlank] at h ⊢
    omega
  · decide

theorem ofSigil_of_validate {config : Config} (h : config.validate = .ok ()) :
    ofSigil config.sigil = .ok ⟨config.sigil⟩ := by
  unfold Config.validate at h
  split at h
  · cases h
  · rename_i hne
    split at h
    · cases h
    · rename_i hchars
      have hchars : ∀ c ∈ config.sigil.toList, Config.isSigilChar c = true := by simpa using hchars
      have hcons : config.sigil.toList ≠ [] := by simpa using hne
      obtain ⟨c, cs, hcs⟩ := List.exists_cons_of_ne_nil hcons
      have hc : Text.isBlank c = false := not_isBlank_of_isSigilChar (hchars c (by simp [hcs]))
      rw [ofSigil, if_neg (by simp [Text.isBlankText, hcs, hc])]

end Marker

/-! ### Contents of blocks -/

/-- What a line becomes where blocks have contents: a marker gives way, every other line stays. -/
inductive Marker.Becomes (sigil : String) (contents : Entries String) (line : String) : String → Prop
  | copied (h : ∀ b, ¬Names sigil line b) : Becomes sigil contents line line
  | filled {b : BlockName} {text : String} (h : Names sigil line b) (hcontent : Entries.get? contents b.text = some text) :
      Becomes sigil contents line text

namespace Target
variable {σ : Type} {t : Target σ} {m : Marker}

/-- The contents of blocks that are rendered one after the other. -/
def renderBlocks (t : Target σ) : List BlockName → Gen σ (Entries String)
  | [] => pure []
  | b :: rest => do
    let text ← t.block b
    return (b.text, text) :: (← t.renderBlocks rest)

/-- What a line becomes where blocks have contents. -/
def fillLine (m : Marker) (contents : Entries String) (line : String) : String :=
  match m.block? line with
  | none => line
  | some b => (Entries.get? contents b.text).getD ""

/-- The blocks that lines name, in the order in which they are first named, without those of known names. -/
def missing (m : Marker) (known : List String) (lines : List String) : List BlockName :=
  ((lines.filterMap m.block?).filter (·.text ∉ known)).eraseDups

theorem missing_cons {known rest : List String} {line : String} {b : BlockName} (hline : m.block? line = some b)
    (hnew : b.text ∉ known) : missing m known (line :: rest) = b :: missing m (known ++ [b.text]) rest := by
  have htext : ∀ b' : BlockName, b'.text = b.text ↔ b' = b := by
    rintro ⟨text'⟩
    cases b
    simp
  simp only [missing, List.filterMap_cons, hline, List.filter_cons, hnew, not_false_eq_true, decide_true, if_true,
    List.eraseDups_cons, List.filter_filter]
  congr 2
  apply List.filter_congr
  intro b' _
  rw [Bool.eq_iff_iff]
  simp [htext, and_comm]

theorem fillLines_eq (cache : BlockCache) (lines : List String) :
    t.fillLines m cache lines = do
      let contents ← t.renderBlocks (missing m (Entries.names cache.texts) lines)
      return String.join (lines.map (fillLine m (cache.texts ++ contents))) := by
  -- A marker of a block that is not in the cache adds the block to those that are missing; every other line adds none.
  induction lines generalizing cache with
  | nil => rfl
  | cons line rest ih =>
    unfold fillLines
    cases hline : m.block? line with
    | none =>
      have hmissing : ∀ known, missing m known (line :: rest) = missing m known rest := by
        simp [missing, hline]
      have hfill : ∀ contents, fillLine m contents line = line := by simp [fillLine, hline]
      simp [ih, hmissing, hfill]
    | some b =>
      have hfill : ∀ contents, fillLine m contents line = (Entries.get? contents b.text).getD "" := by
        simp [fillLine, hline]
      unfold BlockCache.getOrRender
      cases hcache : Entries.get? cache.texts b.text with
      | some text =>
        have hknown : b.text ∈ Entries.names cache.texts := Entries.has_iff.mp (by rw [Entries.has, hcache]; rfl)
        have hmissing : missing m (Entries.names cache.texts) (line :: rest) =
            missing m (Entries.names cache.texts) rest := by
          simp [missing, hline, hknown]
        simp [ih, hmissing, hfill, Entries.get?_append, hcache]
      | none =>
        have hnew : b.text ∉ Entries.names cache.texts := Entries.get?_eq_none_iff.mp hcache
        have hnames : ∀ text, Entries.names (cache.texts ++ [(b.text, text)]) = Entries.names cache.texts ++ [b.text] := by
          simp [Entries.names]
        simp [ih, missing_cons hline hnew, hfill, renderBlocks, hnames, Entries.set_of_not_mem _ hnew,
          Entries.get?_append, hcache, Entries.get?]

/-! ### Runs -/

/-- Blocks are rendered one after the other, each from the run that the one before has left, with these contents. -/
inductive RendersBlocks (t : Target σ) : Run σ → List BlockName → Entries String → Run σ → Prop
  | nil (r : Run σ) : RendersBlocks t r [] [] r
  | cons {r r₁ r' : Run σ} {b : BlockName} {text : String} {rest : List BlockName} {contents : Entries String}
      (h : (t.block b).run.run r = (.ok text, r₁)) (hrest : RendersBlocks t r₁ rest contents r') :
      RendersBlocks t r (b :: rest) ((b.text, text) :: contents) r'

theorem RendersBlocks.names {r r' : Run σ} {bs : List BlockName} {contents : Entries String}
    (h : RendersBlocks t r bs contents r') : Entries.names contents = bs.map BlockName.text := by
  induction h with
  | nil => rfl
  | cons _ _ ih =>
    simp only [Entries.names] at ih
    simp [Entries.names, ih]

/-- Blocks are rendered up to the first that fails, and its failure is the outcome. -/
def FailsAtBlock (t : Target σ) (r : Run σ) (bs : List BlockName) (e : Error) (r' : Run σ) : Prop :=
  ∃ done b rest contents r₁, bs = done ++ b :: rest ∧ RendersBlocks t r done contents r₁ ∧
    (t.block b).run.run r₁ = (.error e, r')

theorem run_renderBlocks (t : Target σ) (bs : List BlockName) (r : Run σ) :
    (∃ contents r', (t.renderBlocks bs).run.run r = (.ok contents, r') ∧ RendersBlocks t r bs contents r') ∨
      ∃ e r', (t.renderBlocks bs).run.run r = (.error e, r') ∧ FailsAtBlock t r bs e r' := by
  induction bs generalizing r with
  | nil => exact Or.inl ⟨[], r, rfl, .nil r⟩
  | cons b rest ih =>
    rw [renderBlocks, Gen.run_bind]
    rcases h : (t.block b).run.run r with ⟨e | text, r₁⟩
    · exact Or.inr ⟨e, r₁, rfl, [], b, rest, [], r, rfl, .nil r, h⟩
    · simp only [Gen.run_bind]
      rcases ih r₁ with ⟨contents, r', hrest, hrenders⟩ | ⟨e, r', hrest, hfails⟩
      · rw [hrest]
        exact Or.inl ⟨(b.text, text) :: contents, r', rfl, .cons h hrenders⟩
      · rw [hrest]
        obtain ⟨done, b', rest', contents, r₂, rfl, hdone, hb'⟩ := hfails
        exact Or.inr ⟨e, r', rfl, b :: done, b', rest', (b.text, text) :: contents, r₂, rfl, .cons h hdone, hb'⟩

/-- The blocks that inputs name, in the order in which they are first named. -/
def namedBlocks (sigil : String) (inputs : Inputs) : List BlockName :=
  (inputs.lines.filterMap (Marker.block? ⟨sigil⟩)).eraseDups

theorem missing_nil (sigil : String) (inputs : Inputs) : missing ⟨sigil⟩ [] inputs.lines = namedBlocks sigil inputs := by
  simp [missing, namedBlocks]

theorem mem_namedBlocks_iff {sigil : String} {inputs : Inputs} {b : BlockName} :
    b ∈ namedBlocks sigil inputs ↔ ∃ line ∈ inputs.lines, Marker.Names sigil line b := by
  rw [namedBlocks, List.mem_eraseDups, List.mem_filterMap]
  simp only [Marker.block?_eq_some_iff]

theorem becomes_fillLine {sigil : String} {contents : Entries String} {line : String}
    (h : ∀ b, Marker.Names sigil line b → b.text ∈ Entries.names contents) :
    Marker.Becomes sigil contents line (fillLine ⟨sigil⟩ contents line) := by
  cases hline : Marker.block? ⟨sigil⟩ line with
  | none =>
    have hcopied : fillLine ⟨sigil⟩ contents line = line := by simp [fillLine, hline]
    rw [hcopied]
    refine .copied fun b hb => ?_
    rw [← Marker.block?_eq_some_iff (m := ⟨sigil⟩), hline] at hb
    cases hb
  | some b =>
    have hb : Marker.Names sigil line b := Marker.block?_eq_some_iff.mp hline
    obtain ⟨text, htext⟩ := Option.isSome_iff_exists.mp (Entries.has_iff.mpr (h b hb))
    have hfilled : fillLine ⟨sigil⟩ contents line = text := by simp [fillLine, hline, htext]
    rw [hfilled]
    exact .filled hb htext

/-- How inputs are filled from a run: their lines are cut after line feeds, and the output is what the lines become.
The blocks that are named are rendered once each, in the order in which they are first named; the first that fails
ends the run with its failure. -/
structure Fills (t : Target σ) (sigil : String) (inputs : Inputs) (r : Run σ) : Prop where
  lines : ∀ input ∈ inputs.all, Text.IsLines input.text.toList ((Text.lines input.text).map String.toList)
  markers : ∀ line b, Marker.block? ⟨sigil⟩ line = some b ↔ Marker.Names sigil line b
  once : (namedBlocks sigil inputs).Nodup
  ends :
    (∃ contents r' piece, RendersBlocks t r (namedBlocks sigil inputs) contents r' ∧
      (∀ line ∈ inputs.lines, Marker.Becomes sigil contents line (piece line)) ∧
      (t.generate inputs).run.run r = (.ok (String.join (inputs.lines.map piece)), r')) ∨
    ∃ e r', FailsAtBlock t r (namedBlocks sigil inputs) e r' ∧ (t.generate inputs).run.run r = (.error e, r')

/-- A target that works by blocks fills its inputs, from every run with a valid configuration. -/
theorem fills_of_validate {r : Run σ} (ht : t.composition = .blocks) (hconfig : r.session.config.validate = .ok ())
    (inputs : Inputs) : t.Fills r.session.config.sigil inputs r := by
  have hgenerate : t.generate inputs = t.composeBlocks inputs := by rw [generate, ht]
  have hrun : (t.generate inputs).run.run r =
      (t.renderBlocks (namedBlocks r.session.config.sigil inputs) >>= fun contents =>
        pure (String.join (inputs.lines.map (fillLine ⟨r.session.config.sigil⟩ contents)))).run.run r := by
    rw [hgenerate, run_composeBlocks, Marker.ofSigil_of_validate hconfig, ← missing_nil]
    exact congrArg (fun x => x.run.run r) (fillLines_eq .empty inputs.lines)
  refine ⟨fun input _ => Text.isLines_lines input.text, fun _ _ => Marker.block?_eq_some_iff, nodup_eraseDups _, ?_⟩
  rw [hrun, Gen.run_bind]
  rcases t.run_renderBlocks (namedBlocks r.session.config.sigil inputs) r with
    ⟨contents, r', hblocks, hrenders⟩ | ⟨e, r', hblocks, hfails⟩ <;> rw [hblocks]
  · refine Or.inl ⟨contents, r', fillLine ⟨r.session.config.sigil⟩ contents, hrenders, fun line hline => ?_, rfl⟩
    refine becomes_fillLine fun b hb => ?_
    rw [hrenders.names]
    exact List.mem_map_of_mem (mem_namedBlocks_iff.mpr ⟨line, hline, hb⟩)
  · exact Or.inr ⟨e, r', hfails, rfl⟩

/-- Two markers of one block, the second with its name, and a line that only mentions the sigil. -/
theorem fills_of_validate_twice :
    let r : Run Unit :=
      ⟨.start ⟨[("f", .new "f" true)], [("ERROR", .new "ERROR")], true⟩ "JavaJava" .default, ()⟩
    let inputs : Inputs := ⟨[⟨"A.java", "class A \x7b\r\n  %STIMULUS%\r\n"⟩],
      [⟨"B.java", "%STIMULUS:functions%\n// %STIMULUS%"⟩]⟩
    Java.Class.target.composition = .blocks ∧ Config.default.validate = .ok () ∧
      Java.Class.target.Fills "STIMULUS" inputs r ∧
      ((Java.Class.target.generate inputs).run.run r).1 =
        .ok ("class A \x7b\r\n    public static native void F();\n    public static native void F();\n" ++
          "// %STIMULUS%") := by
  intro r inputs
  have hconfig : Config.default.validate = .ok () := by decide
  exact ⟨rfl, hconfig, fills_of_validate (r := r) rfl hconfig _, by decide +kernel⟩

end Target
end Bindery
