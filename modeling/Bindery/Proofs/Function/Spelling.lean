import Bindery.Proofs.Function.Params
import Bindery.Proofs.Text.Contains
import Bindery.Proofs.Text.Pieces

/-! # How parameters are written

A parameter can be written in many ways: its flags in any order and more than once, the direction `IN` or nothing in
its place, and blanks of any kind and number between and around the words. What is written in such a way is read as
the parameter (`parse_print`), and so is a list of them, be it one text or a list of items
(`declaredParams_print`). -/

namespace Bindery

/-! ### Spellings -/

/-- Blanks, possibly none. -/
structure Margin where
  chars : List Char
  blank : chars.all Text.isBlank = true := by decide

theorem Margin.isBlank (blanks : Margin) : ∀ c ∈ blanks.chars, Text.isBlank c = true :=
  List.all_eq_true.mp blanks.blank

theorem Margin.not_mem (blanks : Margin) {c : Char} (hblank : Text.isBlank c = false) : c ∉ blanks.chars := fun hmem => by
  rw [blanks.isBlank c hmem] at hblank
  cases hblank

/-- No blanks. -/
def Margin.none : Margin where
  chars := []

/-- The blanks between two words. -/
structure Gap extends Margin where
  nonempty : chars ≠ [] := by decide

/-- One space. -/
def Gap.space : Gap where
  chars := [' ']

/-- A word in front of the direction. -/
inductive Flag where
  | primary
  | optional
deriving Repr, DecidableEq

/-- How a flag is written. -/
def Flag.word : Flag → String
  | primary => "PRIMARY"
  | optional => "OPTIONAL"

/-- The words that are no type unless a direction stands in front of them. -/
def Param.keywords : List String := ["PRIMARY", "OPTIONAL", "IN", "OUT", "INOUT"]

/-- What is free about the way in which a parameter is written. -/
structure Spelling where
  before : Margin
  /-- The flags, each with the blanks behind it. -/
  flags : List (Flag × Gap)
  /-- The blanks behind the direction, if it is written. -/
  mode : Option Gap
  /-- The blanks behind the type. -/
  middle : Gap
  beforeEquals : Margin
  afterEquals : Margin
  after : Margin

namespace Spelling

/-- The words in front of the name, each with the blanks behind it. -/
def frontWords (s : Spelling) (p : Param) : List (String × Gap) :=
  s.flags.map (fun f => (f.1.word, f.2)) ++
    ((s.mode.map fun gap => (p.mode.keyword, gap)).toList ++ [(p.type, s.middle)])

/-- The words up to the name. -/
def headChars (s : Spelling) (p : Param) : List Char :=
  (s.frontWords p).flatMap (fun w => w.1.toList ++ w.2.chars) ++ p.name.toList

/-- The default with its equals sign. -/
def defaultChars (s : Spelling) : Option String → List Char
  | some default => s.beforeEquals.chars ++ '=' :: (s.afterEquals.chars ++ default.toList)
  | none => []

/-- A parameter in this spelling. -/
def print (s : Spelling) (p : Param) : String :=
  String.ofList (s.before.chars ++ (s.headChars p ++ s.defaultChars p.default) ++ s.after.chars)

/-- The flags that are written are those of the parameter, and its direction is left out only if it is `IN` and the
type is not taken for a keyword. -/
structure Fits (s : Spelling) (p : Param) : Prop where
  primary : p.primary = true ↔ .primary ∈ s.flags.map (·.1)
  optional : p.optional = true ↔ .optional ∈ s.flags.map (·.1)
  mode : s.mode = none → p.mode = .input ∧ p.type ∉ Param.keywords

instance (s : Spelling) (p : Param) : Decidable (s.Fits p) :=
  decidable_of_iff ((p.primary = true ↔ .primary ∈ s.flags.map (·.1)) ∧
      (p.optional = true ↔ .optional ∈ s.flags.map (·.1)) ∧
    (s.mode = none → p.mode = .input ∧ p.type ∉ Param.keywords))
    ⟨fun ⟨hprimary, hoptional, hmode⟩ => ⟨hprimary, hoptional, hmode⟩, fun h => ⟨h.primary, h.optional, h.mode⟩⟩

end Spelling

namespace Param

/-- A word that may stand in an item. -/
structure IsWord (s : String) : Prop where
  nonempty : s ≠ ""
  plain : ∀ c ∈ s.toList, Text.isBlank c = false ∧ c ≠ ',' ∧ c ≠ '='

instance (s : String) : Decidable (IsWord s) :=
  decidable_of_iff (s ≠ "" ∧ s.toList.all (fun c => decide (Text.isBlank c = false ∧ c ≠ ',' ∧ c ≠ '=')) = true)
    ⟨fun ⟨hne, hplain⟩ => ⟨hne, fun c hc => of_decide_eq_true (List.all_eq_true.mp hplain c hc)⟩,
      fun h => ⟨h.nonempty, List.all_eq_true.mpr fun c hc => decide_eq_true (h.plain c hc)⟩⟩

/-- A parameter that an item can declare. -/
structure Writable (p : Param) : Prop where
  name : IsWord p.name
  type : IsWord p.type
  default : ∀ d ∈ p.default, d ≠ "" ∧ Text.trim d = d ∧ ',' ∉ d.toList
  dependencies : p.dependencies = []
  outputName : p.outputName = none

instance (p : Param) : Decidable p.Writable :=
  decidable_of_iff (IsWord p.name ∧ IsWord p.type ∧ (∀ d ∈ p.default, d ≠ "" ∧ Text.trim d = d ∧ ',' ∉ d.toList) ∧
    p.dependencies = [] ∧ p.outputName = none)
    ⟨fun ⟨hname, htype, hdefault, hdependencies, houtputName⟩ => ⟨hname, htype, hdefault, hdependencies, houtputName⟩,
      fun h => ⟨h.name, h.type, h.default, h.dependencies, h.outputName⟩⟩

/-! ### Reading the words of an item -/

theorem ofKeyword?_of_not_mem_keywords {w : String} (h : w ∉ keywords) : Mode.ofKeyword? w = none := by
  simp only [keywords, List.mem_cons, not_or] at h
  simp [Mode.ofKeyword?, h]

/-- The flags end at the first word that is none. -/
theorem takeFlags_append (flags : List Flag) {w : String} (rest : List String) (hprimary : w ≠ "PRIMARY")
    (hoptional : w ≠ "OPTIONAL") :
    takeFlags (flags.map Flag.word ++ w :: rest) =
      (decide (.primary ∈ flags), decide (.optional ∈ flags), w :: rest) := by
  induction flags with
  | nil => simp [takeFlags, hprimary, hoptional]
  | cons f flags ih => cases f <;> simp [takeFlags, Flag.word, ih]

theorem isWord_keyword (m : Mode) : IsWord m.keyword := by
  cases m <;> decide

theorem isWord_flag (f : Flag) : IsWord f.word := by
  cases f <;> decide

end Param

namespace Spelling
variable {s : Spelling} {p : Param}

theorem isWord_of_mem_frontWords (h : p.Writable) {w : String × Gap} (hw : w ∈ s.frontWords p) : Param.IsWord w.1 := by
  simp only [frontWords, List.mem_append, List.mem_map, Option.mem_toList, Option.map_eq_some_iff,
    List.mem_singleton] at hw
  rcases hw with ⟨f, -, rfl⟩ | ⟨gap, -, rfl⟩ | rfl
  · exact Param.isWord_flag f.1
  · exact Param.isWord_keyword p.mode
  · exact h.type

/-- The words of an item are those in front of the name, and the name. -/
theorem wordChars_frontWords (hname : Param.IsWord p.name) (blanks : Margin) :
    ∀ ws : List (String × Gap), (∀ w ∈ ws, Param.IsWord w.1) →
      Text.wordChars (ws.flatMap (fun w => w.1.toList ++ w.2.chars) ++ p.name.toList ++ blanks.chars) =
        (ws.map fun w => w.1.toList) ++ [p.name.toList]
  | [], _ => by
    have hne : p.name.toList ≠ [] := by simpa using hname.nonempty
    exact Text.wordChars_word hne (fun c hc => (hname.plain c hc).1) blanks.isBlank
  | w :: ws, hws => by
    rw [List.forall_mem_cons] at hws
    have hne : w.1.toList ≠ [] := by simpa using hws.1.nonempty
    rw [List.flatMap_cons, List.append_assoc, List.append_assoc, List.append_assoc,
      Text.wordChars_word_append hne (fun c hc => (hws.1.plain c hc).1) w.2.nonempty w.2.isBlank, ← List.append_assoc,
      wordChars_frontWords hname blanks ws hws.2]
    rfl

theorem words_headChars (h : p.Writable) (s : Spelling) (blanks : Margin) :
    Text.words (String.ofList (s.headChars p ++ blanks.chars)) = (s.frontWords p).map (·.1) ++ [p.name] := by
  rw [Text.words, String.toList_ofList, headChars,
    wordChars_frontWords h.name blanks _ fun w hw => isWord_of_mem_frontWords h hw]
  simp [Function.comp_def]

/-- The flags and the direction are taken off, and the type and the name are left. -/
theorem take_frontWords (h : s.Fits p) :
    ∃ words, Param.takeFlags ((s.frontWords p).map (·.1) ++ [p.name]) = (p.primary, p.optional, words) ∧
      Param.takeMode words = (p.mode, [p.type, p.name]) := by
  have hflags : ∀ w rest, w ≠ "PRIMARY" → w ≠ "OPTIONAL" →
      Param.takeFlags (s.flags.map (fun f => f.1.word) ++ w :: rest) = (p.primary, p.optional, w :: rest) := by
    intro w rest hprimary hoptional
    have hmap : s.flags.map (fun f => f.1.word) = (s.flags.map (·.1)).map Flag.word := by simp [Function.comp_def]
    have hp : decide (.primary ∈ s.flags.map (·.1)) = p.primary := by
      rw [Bool.eq_iff_iff, decide_eq_true_iff, h.primary]
    have ho : decide (.optional ∈ s.flags.map (·.1)) = p.optional := by
      rw [Bool.eq_iff_iff, decide_eq_true_iff, h.optional]
    rw [hmap, Param.takeFlags_append _ rest hprimary hoptional, hp, ho]
  cases hmode : s.mode with
  | none =>
    obtain ⟨hinput, htype⟩ := h.mode hmode
    refine ⟨[p.type, p.name], ?_, ?_⟩
    · have hne : p.type ≠ "PRIMARY" ∧ p.type ≠ "OPTIONAL" :=
        ⟨fun heq => htype (heq ▸ by decide), fun heq => htype (heq ▸ by decide)⟩
      simpa [frontWords, hmode, Function.comp_def] using hflags p.type [p.name] hne.1 hne.2
    · rw [Param.takeMode, Param.ofKeyword?_of_not_mem_keywords htype, hinput]
  | some gap =>
    refine ⟨[p.mode.keyword, p.type, p.name], ?_, ?_⟩
    · have hne : p.mode.keyword ≠ "PRIMARY" ∧ p.mode.keyword ≠ "OPTIONAL" := by cases p.mode <;> decide
      simpa [frontWords, hmode, Function.comp_def] using hflags p.mode.keyword [p.type, p.name] hne.1 hne.2
    · rw [Param.takeMode, Mode.ofKeyword?_keyword]

/-! ### Reading an item -/

/-- A parameter in a spelling, without the blanks around it. -/
def core (s : Spelling) (p : Param) : List Char := s.headChars p ++ s.defaultChars p.default

theorem headChars_eq_cons (h : p.Writable) (s : Spelling) : ∃ c cs, s.headChars p = c :: cs ∧ Text.isBlank c = false := by
  have hfirst : ∀ w cs, Param.IsWord w → ∃ c cs', w.toList ++ cs = c :: cs' ∧ Text.isBlank c = false := by
    intro w cs hw
    obtain ⟨c, rest, hrest⟩ := List.exists_cons_of_ne_nil (show w.toList ≠ [] by simpa using hw.nonempty)
    exact ⟨c, rest ++ cs, by rw [hrest, List.cons_append], (hw.plain c (by simp [hrest])).1⟩
  cases hws : s.frontWords p with
  | nil => simp [frontWords] at hws
  | cons w ws =>
    have hw := isWord_of_mem_frontWords h (hws ▸ List.mem_cons_self : w ∈ s.frontWords p)
    rw [headChars, hws, List.flatMap_cons, List.append_assoc, List.append_assoc]
    exact hfirst w.1 _ hw

theorem trimmed_core (h : p.Writable) (s : Spelling) : Text.Trimmed (s.core p) where
  head := by
    obtain ⟨c, cs, hcs, hc⟩ := headChars_eq_cons h s
    simp [core, hcs, hc]
  last := by
    have hlast : ∀ {a b : List Char}, b ≠ [] → (∀ c ∈ b.getLast?, Text.isBlank c = false) →
        ∀ c ∈ (a ++ b).getLast?, Text.isBlank c = false := by
      intro a b hne hb
      rwa [List.getLast?_append_of_ne_nil a hne]
    rw [core]
    cases hd : p.default with
    | none =>
      rw [defaultChars, List.append_nil, headChars]
      exact hlast (by simpa using h.name.nonempty) fun c hc =>
        (h.name.plain c (List.mem_of_getLast? (Option.mem_def.mp hc))).1
    | some d =>
      obtain ⟨hne, htrim, -⟩ := h.default d hd
      have hend : s.headChars p ++ s.defaultChars (some d) =
          (s.headChars p ++ s.beforeEquals.chars ++ '=' :: s.afterEquals.chars) ++ d.toList := by
        simp [defaultChars]
      rw [hend]
      exact hlast (by simpa using hne) (Text.trim_eq_self_iff.mp htrim).last

theorem not_mem_headChars {c : Char} (h : p.Writable) (s : Spelling) (hblank : Text.isBlank c = false)
    (hc : c = ',' ∨ c = '=') : c ∉ s.headChars p := by
  have hword : ∀ {w : String}, Param.IsWord w → c ∉ w.toList := fun hw hmem => by
    obtain ⟨-, hcomma, hequals⟩ := hw.plain c hmem
    exact hc.elim hcomma hequals
  rw [headChars, List.mem_append, not_or, List.mem_flatMap]
  refine ⟨?_, hword h.name⟩
  rintro ⟨w, hw, hmem⟩
  rcases List.mem_append.mp hmem with hmem | hmem
  · exact hword (isWord_of_mem_frontWords h hw) hmem
  · exact w.2.not_mem hblank hmem

/-- The default is what stands behind the first equals sign. -/
theorem takeDefault_core (h : p.Writable) (s : Spelling) :
    ∃ blanks : Margin, Param.takeDefault (String.ofList (s.core p)) =
      (String.ofList (s.headChars p ++ blanks.chars), p.default) := by
  have hhead : '=' ∉ s.headChars p := not_mem_headChars h s rfl (Or.inr rfl)
  rw [core]
  cases hd : p.default with
  | none =>
    refine ⟨Margin.none, ?_⟩
    have hcut : Text.cut? '=' (String.ofList (s.headChars p)) = none := by
      rw [Text.cut?, String.toList_ofList, Text.cutWhere?_beq_eq_none_iff.mpr hhead, Option.map_none]
    rw [defaultChars, List.append_nil, Param.takeDefault, hcut, Margin.none, List.append_nil]
  | some d =>
    refine ⟨s.beforeEquals, ?_⟩
    have hnone : ∀ c ∈ s.headChars p ++ s.beforeEquals.chars, (c == '=') = false := by
      intro c hc
      rw [beq_eq_false_iff_ne]
      rintro rfl
      rcases List.mem_append.mp hc with hc | hc
      · exact hhead hc
      · exact s.beforeEquals.not_mem rfl hc
    have htrim : Text.trim (String.ofList (s.afterEquals.chars ++ d.toList)) = d := by
      obtain ⟨-, htrim, -⟩ := h.default d hd
      rw [Text.trim, String.toList_ofList, Text.trimChars_append s.afterEquals.isBlank]
      exact htrim
    rw [defaultChars, ← List.append_assoc, Param.takeDefault, Text.cut?, String.toList_ofList,
      Text.cutWhere?_append hnone (by rfl), Option.map_some]
    simp only [htrim]

end Spelling

theorem Param.parse_of_trim {function item : String} : parse function (Text.trim item) = parse function item := by
  have htrim : Text.trim (Text.trim item) = Text.trim item := by
    rw [Text.trim_eq_self_iff, Text.trim, String.toList_ofList]
    exact Text.trimmed_trimChars _
  rw [parse, parse, htrim]

namespace Spelling
variable {s : Spelling} {p : Param}

theorem parse_core (function : String) (h : p.Writable) (hfits : s.Fits p) :
    Param.parse function (String.ofList (s.core p)) = .ok p := by
  have htrim : Text.trim (String.ofList (s.core p)) = String.ofList (s.core p) := by
    rw [Text.trim_eq_self_iff, String.toList_ofList]
    exact trimmed_core h s
  obtain ⟨blanks, hdefault⟩ := takeDefault_core h s
  obtain ⟨words, hflags, hmode⟩ := take_frontWords hfits
  have hne : p.default ≠ some "" := fun heq => (h.default "" heq).1 rfl
  rw [Param.parse, htrim, hdefault]
  simp only [words_headChars h, hflags, hmode, hne, if_false]
  congr 1
  obtain ⟨name, type, mode, default, dependencies, primary, optional, outputName⟩ := p
  obtain rfl : dependencies = [] := h.dependencies
  obtain rfl : outputName = none := h.outputName
  rfl

theorem trim_print (h : p.Writable) (s : Spelling) : Text.trim (s.print p) = String.ofList (s.core p) := by
  rw [Text.trim, print, String.toList_ofList, Text.trimChars_append_right s.after.isBlank,
    Text.trimChars_append s.before.isBlank]
  exact congrArg String.ofList (Text.trimChars_of_trimmed (trimmed_core h s))

/-- A parameter is read as it was in each of its spellings. -/
theorem parse_print (function : String) (h : p.Writable) (hfits : s.Fits p) :
    Param.parse function (s.print p) = .ok p := by
  rw [← Param.parse_of_trim, trim_print h, parse_core function h hfits]

theorem not_mem_print (h : p.Writable) (s : Spelling) : ',' ∉ (s.print p).toList := by
  rw [print, String.toList_ofList, List.mem_append, List.mem_append, List.mem_append, not_or, not_or, not_or]
  refine ⟨⟨s.before.not_mem rfl, not_mem_headChars h s rfl (Or.inl rfl), ?_⟩, s.after.not_mem rfl⟩
  cases hd : p.default with
  | none => simp [defaultChars]
  | some d =>
    have hcomma := (h.default d hd).2.2
    simp [defaultChars, hcomma, Margin.not_mem _ (show Text.isBlank ',' = false from rfl)]

/-! ### Reading lists -/

/-- The items of a list of parameters, each in its spelling. -/
def items (spelled : List (Param × Spelling)) : List String := spelled.map fun e => e.2.print e.1

variable {spelled : List (Param × Spelling)}

theorem clean_items (h : ∀ e ∈ spelled, e.1.Writable) :
    Attr.Value.items?.clean (items spelled) = spelled.map fun e => String.ofList (e.2.core e.1) := by
  have htrim : (items spelled).map Text.trim = spelled.map fun e => String.ofList (e.2.core e.1) := by
    rw [items, List.map_map]
    exact List.map_congr_left fun e he => trim_print (h e he) e.2
  rw [Attr.Value.items?.clean, htrim, List.filter_eq_self]
  intro item hitem
  obtain ⟨e, he, rfl⟩ := List.mem_map.mp hitem
  obtain ⟨c, cs, hcs, -⟩ := headChars_eq_cons (h e he) e.2
  simp [core, hcs]

theorem items?_joinWith (h : ∀ e ∈ spelled, e.1.Writable) :
    (Attr.Value.text (Text.joinWith "," (items spelled))).items? = (Attr.Value.list (items spelled)).items? := by
  rw [Attr.Value.items?, Attr.Value.items?]
  cases hspelled : spelled with
  | nil => decide
  | cons e rest =>
    have hne : (items spelled).map String.toList ≠ [] := by simp [items, hspelled]
    have hnone : ∀ q ∈ (items spelled).map String.toList, ∀ c ∈ q, (c == ',') = false := by
      intro q hq c hc
      rw [items, List.map_map] at hq
      obtain ⟨e, he, rfl⟩ := List.mem_map.mp hq
      rw [beq_eq_false_iff_ne]
      rintro rfl
      exact not_mem_print (h e he) e.2 hc
    rw [← hspelled, Text.split, Text.toList_joinWith]
    have hsplit := Text.splitWhere_intercalate (p := (· == ',')) (c := ',') rfl hne hnone
    rw [show ",".toList = [','] from rfl, hsplit, List.map_map]
    simp [Function.comp_def]

theorem mapM_parse_core (function : String) (h : ∀ e ∈ spelled, e.1.Writable ∧ e.2.Fits e.1) :
    (spelled.map fun e => String.ofList (e.2.core e.1)).mapM (Param.parse function) = .ok (spelled.map Prod.fst) := by
  induction spelled with
  | nil => rfl
  | cons e rest ih =>
    rw [List.forall_mem_cons] at h
    exact mapM_cons_eq_ok_iff.mpr ⟨e.1, parse_core function h.1.1 h.1.2, _, ih h.2, rfl⟩

/-- A list of parameters under distinct names is read as it was, whatever the spelling of each, from one text with
commas between the items and from the list of the items. -/
theorem declaredParams_print (function : String) (hnodup : (spelled.map fun e => e.1.name).Nodup)
    (h : ∀ e ∈ spelled, e.1.Writable ∧ e.2.Fits e.1) :
    Function.declaredParams function (.text (Text.joinWith "," (items spelled))) =
        .ok (Function.tableOf (spelled.map Prod.fst)) ∧
      Function.declaredParams function (.list (items spelled)) = .ok (Function.tableOf (spelled.map Prod.fst)) := by
  have hwritable : ∀ e ∈ spelled, e.1.Writable := fun e he => (h e he).1
  have hlist : (Attr.Value.list (items spelled)).items? = some (spelled.map fun e => String.ofList (e.2.core e.1)) := by
    rw [Attr.Value.items?, clean_items hwritable]
  have hnames : ((([] : List Param) ++ spelled.map Prod.fst).map (·.name)).Nodup := by
    simpa [Function.comp_def] using hnodup
  have hdeclare := Function.declare_of_mapM (mapM_parse_core function h) hnames
  constructor
  · rw [Function.declaredParams, Function.listItems, items?_joinWith hwritable, hlist]
    exact hdeclare
  · rw [Function.declaredParams, Function.listItems, hlist]
    exact hdeclare

/-- Three parameters: flags that are repeated, a type and a name that are keywords, an equals sign in a default. -/
def keywordItems : List (Param × Spelling) :=
  [(⟨"res", "VECTOR", .output, some "=a b", [], true, true, none⟩,
      ⟨⟨[' '], by decide⟩, [(.optional, .space), (.primary, .space), (.optional, .space)],
        some ⟨⟨['\t'], by decide⟩, by decide⟩,
        .space, .none, Gap.space.toMargin, .none⟩),
    (.plain "IN" "OUT" .input, ⟨.none, [], some .space, .space, .none, .none, .none⟩),
    (.plain "g" "GRAPH" .input, ⟨.none, [], none, .space, .none, .none, ⟨['\n'], by decide⟩⟩)]

theorem declaredParams_print_keywords :
    items keywordItems = [" OPTIONAL PRIMARY OPTIONAL OUT\tVECTOR res= =a b", "IN OUT IN", "GRAPH g\n"] ∧
      Function.declaredParams "f" (.text (Text.joinWith "," (items keywordItems))) =
        .ok (Function.tableOf (keywordItems.map Prod.fst)) ∧
      Function.declaredParams "f" (.list (items keywordItems)) = .ok (Function.tableOf (keywordItems.map Prod.fst)) :=
  ⟨by decide +kernel, declaredParams_print "f" (by decide +kernel) (by decide +kernel)⟩

end Spelling

end Bindery
