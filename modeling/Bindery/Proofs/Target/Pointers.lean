import Bindery.Proofs.Target.CallOrder
import Bindery.Proofs.Text.Pieces

/-! # Pointers in Python

A type of C is written as a base with qualifiers in front of it and asterisks behind it. Where Python declares the
library, an asterisk more is a `POINTER(...)` more around the spelling, except at the bases of which a pointer has a
spelling of its own (`PointsTo`). An argument that is passed by pointer has an asterisk put behind its type of C, and so
is declared as a pointer to what it would be declared as by value (`Library.pointers_of_render`).

Qualifiers, blanks and asterisks are taken off a type from both ends. What has to be shown is that an asterisk at the end
changes nothing in front: it makes no qualifier of what was none (`dropConst_append`), and so the same base is found with
one pointer more (`splitPointers_star`). -/

namespace Bindery.Target.Python

variable {t : String} {base cs behind : List Char}

/-! ### Qualifiers -/

/-- A text is a base behind qualifiers; each is the word `const`, a space, and further blanks. -/
inductive Qualified (base : List Char) : List Char → Prop
  | plain : Qualified base base
  | const {blanks cs : List Char} (hblanks : ∀ c ∈ blanks, Text.isBlank c = true) (h : Qualified base cs) :
      Qualified base ("const ".toList ++ (blanks ++ cs))

/-- A text has nothing that is taken off a type: no blank and no qualifier in front, no blank and no asterisk behind. -/
structure IsBase (cs : List Char) : Prop where
  head : ∀ c ∈ cs.head?, Text.isBlank c = false
  unqualified : ¬"const ".toList <+: cs
  last : ∀ c ∈ cs.getLast?, isPointerChar c = false

theorem isBase_iff : IsBase cs ↔ cs.head?.any Text.isBlank = false ∧ "const ".toList.isPrefixOf cs = false ∧
    cs.getLast?.any isPointerChar = false := by
  have hnone : ∀ (p : Char → Bool) (c? : Option Char), (∀ c ∈ c?, p c = false) ↔ c?.any p = false := by
    intro p c?
    cases c? <;> simp
  have hprefix : ¬"const ".toList <+: cs ↔ "const ".toList.isPrefixOf cs = false := by
    rw [← List.isPrefixOf_iff_prefix, Bool.not_eq_true]
  rw [← hnone, ← hnone, ← hprefix]
  exact ⟨fun h => ⟨h.head, h.unqualified, h.last⟩, fun h => ⟨h.1, h.2.1, h.2.2⟩⟩

instance (cs : List Char) : Decidable (IsBase cs) := decidable_of_iff' _ isBase_iff

theorem dropConst_append_const (cs : List Char) :
    dropConst ("const ".toList ++ cs) = dropConst (cs.dropWhile Text.isBlank) := by
  show dropConst ('c' :: 'o' :: 'n' :: 's' :: 't' :: ' ' :: cs) = _
  rw [dropConst]

theorem dropConst_of_unqualified (h : ¬"const ".toList <+: cs) : dropConst cs = cs := by
  unfold dropConst
  split
  · exact absurd ⟨_, rfl⟩ h
  · rfl

theorem qualified_dropConst (cs : List Char) : Qualified (dropConst cs) cs := by
  induction cs using dropConst.induct with
  | case1 rest ih =>
    have hblanks : ∀ c ∈ rest.takeWhile Text.isBlank, Text.isBlank c = true :=
      List.all_eq_true.mp List.all_takeWhile
    have h := ih.const hblanks
    rw [List.takeWhile_append_dropWhile] at h
    rwa [← dropConst_append_const] at h
  | case2 cs h =>
    rw [dropConst_of_unqualified fun ⟨rest, hrest⟩ => h rest hrest.symm]
    exact .plain

theorem Qualified.suffix (h : Qualified base cs) : base <:+ cs := by
  induction h with
  | plain => exact List.suffix_rfl
  | const _ _ ih => exact ih.trans ((List.suffix_append _ _).trans (List.suffix_append _ _))

theorem Qualified.head (hbase : IsBase base) (h : Qualified base cs) : ∀ c ∈ cs.head?, Text.isBlank c = false := by
  cases h with
  | plain => exact hbase.head
  | const =>
    rintro c ⟨⟩
    decide

/-- What is left without the qualifiers is the base. -/
theorem dropConst_eq_iff (hbase : IsBase base) : dropConst cs = base ↔ Qualified base cs := by
  constructor
  · rintro rfl
    exact qualified_dropConst cs
  · intro h
    induction h with
    | plain => exact dropConst_of_unqualified hbase.unqualified
    | const hblanks h ih =>
      rw [dropConst_append_const, List.dropWhile_append_of_pos hblanks, Text.dropWhile_of_head (h.head hbase), ih]

/-! ### What stands behind a type -/

theorem isPointerChar_eq_false {c : Char} (hblank : Text.isBlank c = false) (hstar : c ≠ '*') :
    isPointerChar c = false := by simp [isPointerChar, hblank, hstar]

/-- Blanks and asterisks make a qualifier of nothing but the word `const`, and only with a space. -/
theorem unqualified_append (hlast : ∀ c ∈ cs.getLast?, Text.isBlank c = false)
    (hbehind : ∀ c ∈ behind, isPointerChar c = true) (hcs : ¬"const ".toList <+: cs)
    (hspace : behind.head? ≠ some ' ' ∨ cs ≠ "const".toList) : ¬"const ".toList <+: cs ++ behind := by
  rintro ⟨rest, hrest⟩
  rcases List.append_eq_append_iff.mp hrest with ⟨_, rfl, -⟩ | ⟨front, hconst, rfl⟩
  · exact hcs (List.prefix_append _ _)
  · -- The text is a part of the qualifier that ends in no blank, and the rest of the qualifier is blank.
    have hfront : ∀ c ∈ front, isPointerChar c = true := fun c hc => hbehind c (List.mem_append_left rest hc)
    have hend : ∀ c ∈ cs.getLast?, isPointerChar c = false := by
      intro c hc
      have hmem : c ∈ "const ".toList := hconst ▸ List.mem_append_left front (List.mem_of_mem_getLast? hc)
      refine isPointerChar_eq_false (hlast c hc) ?_
      rintro rfl
      exact absurd hmem (by decide)
    have hword : "const".toList = cs :=
      calc "const".toList = Text.dropEndWhile isPointerChar "const ".toList := by decide
        _ = Text.dropEndWhile isPointerChar (cs ++ front) := by rw [hconst]
        _ = cs := by rw [Text.dropEndWhile_append hfront, Text.dropEndWhile_of_last hend]
    subst hword
    have hparts : "const".toList ++ [' '] = "const".toList ++ front := hconst
    obtain rfl := List.append_cancel_left hparts
    simp at hspace

/-- Qualifiers are dropped from a text as they are without what stands behind it. -/
theorem dropConst_append (hlast : ∀ c ∈ cs.getLast?, Text.isBlank c = false)
    (hbehind : ∀ c ∈ behind, isPointerChar c = true)
    (hspace : behind.head? ≠ some ' ' ∨ dropConst cs ≠ "const".toList) :
    dropConst (cs ++ behind) = dropConst cs ++ behind := by
  induction cs using dropConst.induct with
  | case1 rest ih =>
    have hne : rest ≠ [] := by
      rintro rfl
      cases hlast ' ' rfl
    have hrest : ∀ c ∈ rest.getLast?, Text.isBlank c = false := fun c hc =>
      hlast c (Text.getLast?_of_suffix (List.suffix_append "const ".toList rest) c hc)
    have hdrop := dropConst_append_const rest
    calc dropConst ("const ".toList ++ (rest ++ behind))
        = dropConst (rest.dropWhile Text.isBlank ++ behind) := by
          rw [dropConst_append_const, Text.dropWhile_append_of_last hne hrest]
      _ = dropConst (rest.dropWhile Text.isBlank) ++ behind :=
          ih (fun c hc => hrest c (Text.getLast?_of_suffix (List.dropWhile_suffix _) c hc)) (hdrop ▸ hspace)
      _ = dropConst ("const ".toList ++ rest) ++ behind := by rw [hdrop]
  | case2 cs h =>
    have hcs : ¬"const ".toList <+: cs := fun ⟨rest, hrest⟩ => h rest hrest.symm
    rw [dropConst_of_unqualified hcs] at hspace ⊢
    exact dropConst_of_unqualified (unqualified_append hlast hbehind hcs hspace)

/-! ### Base and pointers -/

/-- A type of C, apart from the blanks around it, is a base behind qualifiers. -/
def Names (cType base : String) : Prop := Qualified base.toList (Text.trimChars cType.toList)

/-- Behind the qualifiers stands a base, and behind that asterisks and blanks. -/
theorem exists_base_append (cs : List Char) : ∃ base behind, dropConst (Text.trimChars cs) = base ++ behind ∧
    (∀ c ∈ base.getLast?, isPointerChar c = false) ∧ ∀ c ∈ behind, isPointerChar c = true := by
  obtain ⟨behind, hparts, hbehind⟩ := Text.exists_eq_dropEndWhile_append isPointerChar (dropConst (Text.trimChars cs))
  exact ⟨_, behind, hparts, Text.getLast?_dropEndWhile, hbehind⟩

/-- The asterisks behind the base are the pointers to it. -/
theorem splitPointers_eq (hparts : dropConst (Text.trimChars t.toList) = base ++ behind)
    (hbase : ∀ c ∈ base.getLast?, isPointerChar c = false) (hbehind : ∀ c ∈ behind, isPointerChar c = true) :
    splitPointers t = (String.ofList base, behind.count '*') := by
  have hnone : base.reverse.takeWhile isPointerChar = [] := by
    cases hreverse : base.reverse with
    | nil => rfl
    | cons c rest =>
      have hc := hbase c (by rw [← List.head?_reverse, hreverse]; rfl)
      exact List.takeWhile_cons_of_neg (by simp [hc])
  rw [splitPointers, hparts, List.reverse_append,
    List.takeWhile_append_of_pos fun c hc => hbehind c (List.mem_reverse.mp hc), hnone, List.append_nil,
    List.count_reverse, Text.dropEndWhile_append hbehind, Text.dropEndWhile_of_last hbase]

/-- An asterisk behind a type of C is a pointer more to the same base. Only behind the word `const` and a space it would
be taken for a pointer to nothing. -/
theorem splitPointers_star (h : Text.trim t = t ∨ ¬Names t "const") :
    splitPointers (t ++ "*") = ((splitPointers t).1, (splitPointers t).2 + 1) := by
  obtain ⟨blanks, hcs, hblanks⟩ := Text.exists_eq_dropEndWhile_append Text.isBlank (t.toList.dropWhile Text.isBlank)
  rw [← Text.trimChars] at hcs
  obtain ⟨base, behind, hparts, hbase, hbehind⟩ := exists_base_append t.toList
  have hstar : ∀ c ∈ blanks ++ ['*'], isPointerChar c = true := by
    intro c hc
    rcases List.mem_append.mp hc with hc | hc
    · simp [isPointerChar, hblanks c hc]
    · simp [isPointerChar, List.mem_singleton.mp hc]
  have hspace : (blanks ++ ['*']).head? ≠ some ' ' ∨ dropConst (Text.trimChars t.toList) ≠ "const".toList := by
    rcases h with h | h
    · have htrimmed := Text.trim_eq_self_iff.mp h
      rw [Text.dropWhile_of_head htrimmed.head, Text.trimChars_of_trimmed htrimmed, List.self_eq_append_right] at hcs
      exact Or.inl (by rw [hcs]; decide)
    · exact Or.inr (mt (dropConst_eq_iff (by decide)).mp h)
  have hpartsStar : dropConst (Text.trimChars (t ++ "*").toList) = base ++ (behind ++ (blanks ++ ['*'])) := by
    have htext : (t ++ "*").toList = t.toList ++ ['*'] := String.toList_append
    rw [htext, Text.trimChars_concat (by decide), hcs, List.append_assoc,
      dropConst_append (Text.trimmed_trimChars _).last hstar hspace, hparts, List.append_assoc]
  have hcount : blanks.count '*' = 0 := by
    rw [List.count_eq_zero]
    intro hmem
    cases hblanks '*' hmem
  have hbehindStar : ∀ c ∈ behind ++ (blanks ++ ['*']), isPointerChar c = true := fun c hc =>
    (List.mem_append.mp hc).elim (hbehind c) (hstar c)
  rw [splitPointers_eq hpartsStar hbase hbehindStar, splitPointers_eq hparts hbase hbehind, List.count_append,
    List.count_append, hcount]
  rfl

/-- A base is found without pointers where the type names it. -/
theorem splitPointers_eq_zero_iff {base : String} (hbase : IsBase base.toList) :
    splitPointers t = (base, 0) ↔ Names t base := by
  rw [Names, ← dropConst_eq_iff hbase]
  constructor
  · intro h
    obtain ⟨found, behind, hparts, hfound, hbehind⟩ := exists_base_append t.toList
    rw [splitPointers_eq hparts hfound hbehind, Prod.mk.injEq, List.count_eq_zero] at h
    obtain ⟨rfl, hcount⟩ := h
    -- What stands behind the base ends in no blank, so it would have an asterisk.
    have hnil : behind = [] := by
      by_contra hne
      have hmem := List.getLast_mem hne
      have hlast : behind.getLast hne ∈ (found ++ behind).getLast? := by
        rw [List.getLast?_append, List.getLast?_eq_some_getLast hne]
        rfl
      have hblank := (Text.trimmed_trimChars t.toList).last _
        (Text.getLast?_of_suffix (qualified_dropConst _).suffix _ (hparts ▸ hlast))
      have hpointer := isPointerChar_eq_false hblank fun hstar => hcount (hstar ▸ hmem)
      rw [hbehind _ hmem] at hpointer
      cases hpointer
    rw [hparts, hnil, List.append_nil, String.toList_ofList]
  · intro h
    have hparts : dropConst (Text.trimChars t.toList) = base.toList ++ [] := by rw [h, List.append_nil]
    rw [splitPointers_eq hparts hbase.last (by simp), String.ofList_toList]
    rfl

/-! ### Spelling a pointer -/

/-- The bases of which a pointer has a spelling of its own, with that spelling. -/
def ownPointers : List (String × String) :=
  [("char", "c_char_p"), ("void", "c_void_p"), ("c_char", "c_char_p"), ("c_void", "c_void_p"), ("c_wchar", "c_wchar_p")]

theorem spellBase_mem_pointedBases_iff {base : String} :
    spellBase base ∈ pointedBases ↔ ∃ e ∈ ownPointers, base = e.1 := by
  rw [spellBase]
  split
  · rename_i hscalar
    revert base
    decide
  · rename_i hscalar
    simp only [pointedBases, ownPointers, scalars, List.mem_cons, List.not_mem_nil] at hscalar ⊢
    grind

theorem spellPointers_of_own : ∀ e ∈ ownPointers, spellPointers (spellBase e.1) 1 = e.2 := by decide

theorem isBase_of_own : ∀ e ∈ ownPointers, IsBase e.1.toList := by decide

/-- A pointer is spelled with `POINTER(...)` around what it points to, unless that has no pointers itself and is one of
the bases with spellings of their own. -/
theorem spellPointers_succ_iff {base : String} {n : Nat} :
    spellPointers base (n + 1) = "POINTER(" ++ spellPointers base n ++ ")" ↔ ¬(n = 0 ∧ base ∈ pointedBases) := by
  cases n with
  | zero =>
    by_cases hbase : base ∈ pointedBases
    · refine iff_of_false ?_ (by simp [hbase])
      revert base
      decide
    · have hnone : base ≠ "c_void" := by
        rintro rfl
        exact hbase (by decide)
      simp [spellPointers, wrapPointers, hbase, hnone]
  | succ n =>
    refine iff_of_true ?_ (by simp)
    rw [spellPointers, spellPointers]
    split <;> rfl

/-- How a pointer to a type of C is spelled beside the type itself: with the spelling of its own, if the type names such a
base, and else with `POINTER(...)` around the spelling of the type. -/
structure PointsTo (cType spelled pointer : String) : Prop where
  own : ∀ e ∈ ownPointers, Names cType e.1 → pointer = e.2
  wrapped_iff : pointer = "POINTER(" ++ spelled ++ ")" ↔ ∀ e ∈ ownPointers, ¬Names cType e.1

/-- A type of C with an asterisk behind it is a pointer to the type. -/
theorem pointsTo_star (h : Text.trim t = t ∨ ¬Names t "const") :
    PointsTo t (foreignType t) (foreignType (t ++ "*")) := by
  have hspelled : foreignType t = spellPointers (spellBase (splitPointers t).1) (splitPointers t).2 := rfl
  have hpointer : foreignType (t ++ "*") = spellPointers (spellBase (splitPointers t).1) ((splitPointers t).2 + 1) := by
    rw [foreignType, splitPointers_star h]
  have hnamed : ∀ e ∈ ownPointers, splitPointers t = (e.1, 0) ↔ Names t e.1 := fun e he =>
    splitPointers_eq_zero_iff (isBase_of_own e he)
  refine ⟨fun e he hnames => ?_, ?_⟩
  · rw [hpointer, (hnamed e he).mpr hnames]
    exact spellPointers_of_own e he
  · rw [hpointer, hspelled, spellPointers_succ_iff, spellBase_mem_pointedBases_iff]
    constructor
    · intro hnot e he hnames
      have hsplit := (hnamed e he).mpr hnames
      exact hnot ⟨congrArg Prod.snd hsplit, e, he, congrArg Prod.fst hsplit⟩
    · rintro hnone ⟨hzero, e, he, hbase⟩
      exact hnone e he ((hnamed e he).mp (Prod.ext hbase hzero))

-- The word `const` with a space behind it is a base by itself, and a qualifier in front of an asterisk.
example : foreignType "const " = "const" ∧ foreignType ("const " ++ "*") = "POINTER()" := by decide +kernel

/-! ### Arguments -/

/-- Whether a parameter is passed by pointer: the call takes its address, or its type is passed so. -/
def isPointed (p : TypedParam) : Bool :=
  decide ((((p.template? .call).getD "%C%").toList.dropWhile Text.isBlank).head? = some '&') || p.type.isByRef

/-- The type of C of an argument is that of its parameter, or a pointer to it. -/
theorem argumentCType?_eq_some_iff {function : String} {p : TypedParam} {t : String} :
    argumentCType? function p = .ok (some t) ↔ CallSite.pythonTypes.takes p = true ∧
      ∃ c, p.cType? = some c ∧ t = if isPointed p then c ++ "*" else c := by
  simp only [argumentCType?, CallSite.takes, decide_eq_true_eq, isPointed, Bool.or_eq_true]
  by_cases hcall : (p.template? .call).getD "%C%" = ""
  · simp [hcall]
  · cases hc : p.cType? with
    | none => simp [hcall]
    | some c =>
      by_cases hempty : c = ""
      · simp [hempty]
      · simp only [hcall, hempty, if_false]
        split <;> simp [hcall, hempty, eq_comm]

/-- What a parameter with this type of C is declared as: as the type itself if it is passed by value, and as a pointer to
the type if it is passed by pointer. Blanks may stand around the type, unless its base is the word `const`. -/
structure DeclaredAs (p : TypedParam) (cType type : String) : Prop where
  typed : p.cType? = some cType
  byValue : isPointed p = false → type = foreignType cType
  byPointer : isPointed p = true → Text.trim cType = cType ∨ ¬Names cType "const" →
    PointsTo cType (foreignType cType) type

theorem exists_declaredAs_of_gives {s : Signature} {p : TypedParam} {type : String}
    (h : CallSite.pythonTypes.Gives s p type) : ∃ cType, DeclaredAs p cType type := by
  obtain ⟨t, ht, rfl⟩ := h
  obtain ⟨-, cType, hc, rfl⟩ := argumentCType?_eq_some_iff.mp ht
  refine ⟨cType, hc, fun hvalue => ?_, fun hpointed hnamed => ?_⟩
  · rw [if_neg (by simp [hvalue])]
  · rw [if_pos hpointed]
    exact pointsTo_star hnamed

namespace Library

/-- An asterisk behind a type of C makes the spelling of a pointer to it, whatever qualifiers, asterisks and blanks the
type has. So where a function is declared, an argument that is passed by pointer is a pointer to what it would be by
value. -/
theorem pointers_of_render :
    (∀ t, Text.trim t = t ∨ ¬Names t "const" → PointsTo t (foreignType t) (foreignType (t ++ "*"))) ∧
      ∀ (files : Files) (docFolder? : Option String) (g : Generator) (r : Run g.State) (name text : String),
        Generator.ofName? files docFolder? "PythonCTypes" = some g →
        ((g.target.render name).run.run r).1 = .ok text →
        ∃ s result types, Signature.resolve r.session.catalog name = .ok s ∧ text = layout s.name result types ∧
          Text.contains (s.name ++ ".argtypes = [" ++ ", ".intercalate types ++ "]\n") text ∧
          List.Forall₂ (fun p type => ∃ cType, DeclaredAs p cType type)
            (s.params.filter fun p => CallSite.pythonTypes.takes p) types := by
  refine ⟨fun _ h => pointsTo_star h, fun _ _ _ _ _ _ hg h => ?_⟩
  obtain ⟨s, types, hs, htypes, ⟨result, rfl⟩, hplaced⟩ := CallSite.pythonTypes.shows_of_render hg h
  have hdeclared := (CallSite.pythonTypes.follows_of_arguments htypes).imp fun _ _ => exists_declaredAs_of_gives
  exact ⟨s, result, types, hs, rfl, hplaced, hdeclared⟩

/-- A catalog of one function `f` with these parameters, an integer that is passed by pointer where it is written, and a
text that always is. -/
def catalogPointing (params : String) : Catalog :=
  { Signature.catalogOf params "..." with
    types := [
      ("INT", ⟨"INT", [("CTYPE", .text "int"), ("CALL", .map [("OUT", .text "&%C%")])], .empty⟩),
      ("TEXT", ⟨"TEXT", [("CTYPE", .text "const  char ")], NameSet.empty.insert "by_ref"⟩)] }

/-- One argument is passed by value and two by pointer. -/
theorem pointers_of_render_three :
    (Text.trim "const void*" = "const void*" ∧ PointsTo "const void*" "c_void_p" "POINTER(c_void_p)") ∧
      ∃ s result types, Signature.resolve (catalogPointing "INT a, OUT INT b, TEXT c") "f" = .ok s ∧
        "\nf = _lib.f\nf.restype = c_int\nf.argtypes = [c_int, POINTER(c_int), c_char_p]\n" =
          layout s.name result types ∧
        s.params.map isPointed = [false, true, true] ∧ types.length = 3 ∧
        List.Forall₂ (fun p type => ∃ cType, DeclaredAs p cType type) s.params types := by
  let r : Run Aliases := ⟨.start (catalogPointing "INT a, OUT INT b, TEXT c") "PythonCTypes" .default, .empty⟩
  obtain ⟨htexts, hrenders⟩ := pointers_of_render
  have htrim : Text.trim "const void*" = "const void*" := by decide
  have hspelled : foreignType "const void*" = "c_void_p" := by decide +kernel
  have hpointer : foreignType ("const void*" ++ "*") = "POINTER(c_void_p)" := by decide +kernel
  have htext := htexts "const void*" (Or.inl htrim)
  rw [hspelled, hpointer] at htext
  have hrender : ((target.render "f").run.run r).1 =
      .ok "\nf = _lib.f\nf.restype = c_int\nf.argtypes = [c_int, POINTER(c_int), c_char_p]\n" := by decide +kernel
  obtain ⟨s, result, types, hs, hlayout, -, hdeclared⟩ := hrenders .empty none ⟨_, .empty, target⟩ r "f" _ rfl hrender
  have hresolve : (Signature.resolve r.session.catalog "f").map (fun s =>
      (s.params.map isPointed, s.params.all fun p => CallSite.pythonTypes.takes p)) =
      .ok ([false, true, true], true) := by decide +kernel
  rw [hs, Except.map, Except.ok.injEq, Prod.mk.injEq, List.all_eq_true] at hresolve
  obtain ⟨hpointed, hall⟩ := hresolve
  rw [List.filter_eq_self.mpr hall] at hdeclared
  have hlength : s.params.length = 3 := by rw [← List.length_map isPointed, hpointed]; rfl
  exact ⟨⟨htrim, htext⟩, s, result, types, hs, hlayout, hpointed, hdeclared.length_eq ▸ hlength, hdeclared⟩

end Library

end Bindery.Target.Python
