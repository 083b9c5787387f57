import Bindery.Proofs.Signature
import Bindery.Proofs.Target.Blocks
import Bindery.Proofs.Target.Determined
import Bindery.Proofs.Target.Pointers
import Bindery.Proofs.Text.Contains

/-! # Aliases of enumerations and bit fields

The library in Python makes aliases of the spellings under which functions use enumerations and bit fields. What is
noted is the spelling of an argument, which is that of a pointer where the argument is passed by pointer. So where all
these types are named by identifiers, what is made an alias is an identifier too, except for a pointer to one of them
(`Library.aliased_of_functions`): pointers to `char` and `void` have names of their own, and all other pointers are
spelled with parentheses. -/

namespace Bindery

namespace Target.Python

/-! ### Spelling identifiers -/

/-- A character of identifiers: a letter, a digit or an underscore. -/
def isWordChar (c : Char) : Bool := c.isAlphanum || c == '_'

/-- Whether a text can be a name in C and in Python. -/
def isIdentifier (s : String) : Bool := s.toList.all isWordChar && s.toList.head?.any (!·.isDigit)

variable {a b c s : String}

theorem isPointerChar_of_isWordChar {c : Char} (h : isWordChar c = true) : isPointerChar c = false := by
  refine isPointerChar_eq_false (Marker.not_isBlank_of_isSigilChar h) ?_
  rintro rfl
  cases h

theorem isWordChar_of_isIdentifier (h : isIdentifier s = true) : ∀ c ∈ s.toList, isWordChar c = true := by
  rw [isIdentifier, Bool.and_eq_true, List.all_eq_true] at h
  exact h.1

theorem isIdentifier_append (h : isIdentifier a = true) (hb : ∀ c ∈ b.toList, isWordChar c = true) :
    isIdentifier (a ++ b) = true := by
  rw [isIdentifier, Bool.and_eq_true, List.all_eq_true] at h ⊢
  rw [String.toList_append, List.head?_append]
  refine ⟨fun c hc => (List.mem_append.mp hc).elim (h.1 c) (hb c), ?_⟩
  cases hhead : a.toList.head? with
  | none =>
    rw [hhead] at h
    cases h.2
  | some c =>
    rw [hhead] at h
    exact h.2

theorem trimmed_of_isIdentifier (h : isIdentifier s = true) : Text.Trimmed s.toList := by
  have hblank : ∀ c ∈ s.toList, Text.isBlank c = false := fun c hc =>
    Marker.not_isBlank_of_isSigilChar (isWordChar_of_isIdentifier h c hc)
  exact ⟨fun c hc => hblank c (List.mem_of_mem_head? hc), fun c hc => hblank c (List.mem_of_mem_getLast? hc)⟩

theorem isBase_of_isIdentifier (h : isIdentifier s = true) : IsBase s.toList where
  head := (trimmed_of_isIdentifier h).head
  unqualified hconst := nomatch isWordChar_of_isIdentifier h ' ' (hconst.subset (by decide))
  last c hc := isPointerChar_of_isWordChar (isWordChar_of_isIdentifier h c (List.mem_of_mem_getLast? hc))

/-- An identifier is a base without qualifiers and pointers. -/
theorem splitPointers_of_isIdentifier (h : isIdentifier s = true) : splitPointers s = (s, 0) := by
  rw [splitPointers_eq_zero_iff (isBase_of_isIdentifier h), Names, Text.trimChars_of_trimmed (trimmed_of_isIdentifier h)]
  exact .plain

theorem foreignType_of_isIdentifier (h : isIdentifier c = true) : foreignType c = spellPointers (spellBase c) 0 := by
  rw [foreignType, splitPointers_of_isIdentifier h]

theorem foreignType_pointer (h : isIdentifier c = true) : foreignType (c ++ "*") = spellPointers (spellBase c) 1 := by
  have htrim := Text.trim_eq_self_iff.mpr (trimmed_of_isIdentifier h)
  rw [foreignType, splitPointers_star (Or.inl htrim), splitPointers_of_isIdentifier h]

theorem isIdentifier_spellBase (h : isIdentifier c = true) : isIdentifier (spellBase c) = true := by
  rw [spellBase]
  split
  · exact isIdentifier_append (by decide) (isWordChar_of_isIdentifier h)
  · exact h

theorem isIdentifier_foreignType (h : isIdentifier c = true) : isIdentifier (foreignType c) = true := by
  rw [foreignType_of_isIdentifier h, spellPointers]
  split
  · decide
  · exact isIdentifier_spellBase h

theorem foreignType_pointer_of_not_mem (h : isIdentifier c = true) (hbase : spellBase c ∉ pointedBases) :
    foreignType (c ++ "*") = "POINTER(" ++ spellBase c ++ ")" := by
  rw [foreignType_pointer h, spellPointers, if_neg hbase]
  rfl

/-- A pointer to a type that is named by an identifier is spelled with parentheses, unless it has a name of its own. -/
theorem isIdentifier_foreignType_pointer (h : isIdentifier c = true) :
    isIdentifier (foreignType (c ++ "*")) = true ↔ spellBase c ∈ pointedBases := by
  constructor
  · intro hidentifier
    by_contra hbase
    have hparen : '(' ∈ (foreignType (c ++ "*")).toList := by
      rw [foreignType_pointer_of_not_mem h hbase, String.toList_append, String.toList_append]
      simp
    cases isWordChar_of_isIdentifier hidentifier '(' hparen
  · intro hbase
    have hsuffix : ∀ c ∈ "_p".toList, isWordChar c = true := by simp [isWordChar]
    rw [foreignType_pointer h, spellPointers, if_pos hbase]
    exact isIdentifier_append (isIdentifier_spellBase h) hsuffix

end Target.Python

/-! ### What a run notes -/

namespace Target.Python.Library
variable {c : Catalog} {r r' : Run Aliases} {name text : String} {a : Aliases} {uses : List (TypeInfo × String)}

/-- Whether a type is made an alias. -/
def isAliased (t : TypeInfo) : Bool := t.isEnum || t.isBitfield

/-- The declaration of a function of a catalog, with the types it uses. -/
def rendering (c : Catalog) (name : String) : Except Error (String × List (TypeInfo × String)) :=
  Signature.resolve c name >>= render

/-- The types that a function uses, with their spellings; one that cannot be rendered uses none. -/
def usesOf (c : Catalog) (name : String) : List (TypeInfo × String) :=
  match rendering c name with
  | .ok (_, uses) => uses
  | .error _ => []

/-- The names that are made aliases. -/
def Aliases.Has (a : Aliases) (x : String) : Prop := x ∈ a.enums ∨ x ∈ a.bitfields

/-- The kinds of types that are made aliases, each in a section of its own. -/
inductive AliasKind where
  | enum
  | bitfield

namespace AliasKind

/-- Whether a type is of the kind. -/
def marks (t : TypeInfo) : AliasKind → Bool
  | enum => t.isEnum
  | bitfield => t.isBitfield

/-- The names in the section of the kind. -/
def names (a : Aliases) : AliasKind → NameSet
  | enum => a.enums
  | bitfield => a.bitfields

variable (kind : AliasKind) {x : String}

theorem mem_names_note_iff {use : TypeInfo × String} :
    x ∈ kind.names (a.note use) ↔ x ∈ kind.names a ∨ kind.marks use.1 = true ∧ x = use.2 := by
  have hinsert : ∀ (marked : Bool) (s : NameSet), (x ∈ if marked = true then s.insert use.2 else s) ↔
      x ∈ s ∨ marked = true ∧ x = use.2 := by
    intro marked s
    cases marked
    · simp
    · simp [NameSet.mem_insert, or_comm]
  cases kind
  · exact hinsert use.1.isEnum a.enums
  · exact hinsert use.1.isBitfield a.bitfields

/-- The names afterwards are those before, and the spellings of the uses that are of the kind. -/
theorem mem_names_noteAll_iff :
    x ∈ kind.names (a.noteAll uses) ↔ x ∈ kind.names a ∨ ∃ use ∈ uses, kind.marks use.1 = true ∧ x = use.2 := by
  induction uses generalizing a with
  | nil => simp [Aliases.noteAll]
  | cons use uses ih =>
    rw [Aliases.noteAll, List.foldl_cons, ← Aliases.noteAll, ih, mem_names_note_iff]
    simp only [List.mem_cons, exists_eq_or_imp]
    exact or_assoc

end AliasKind

theorem has_iff {x : String} : a.Has x ↔ ∃ kind : AliasKind, x ∈ kind.names a := by
  constructor
  · rintro (hx | hx)
    · exact ⟨.enum, hx⟩
    · exact ⟨.bitfield, hx⟩
  · rintro ⟨_ | _, hx⟩
    · exact Or.inl hx
    · exact Or.inr hx

theorem isAliased_iff {t : TypeInfo} : isAliased t = true ↔ ∃ kind : AliasKind, kind.marks t = true := by
  rw [isAliased, Bool.or_eq_true]
  constructor
  · rintro (h | h)
    · exact ⟨.enum, h⟩
    · exact ⟨.bitfield, h⟩
  · rintro ⟨_ | _, h⟩
    · exact Or.inl h
    · exact Or.inr h

/-- What is an alias afterwards was one before, or is the spelling of a use. -/
theorem has_noteAll_iff {x : String} :
    (a.noteAll uses).Has x ↔ a.Has x ∨ ∃ use ∈ uses, isAliased use.1 = true ∧ use.2 = x := by
  simp only [has_iff, isAliased_iff, AliasKind.mem_names_noteAll_iff, exists_or]
  refine or_congr_right ?_
  constructor
  · rintro ⟨kind, use, huse, hmarks, rfl⟩
    exact ⟨use, huse, ⟨kind, hmarks⟩, rfl⟩
  · rintro ⟨use, huse, ⟨kind, hmarks⟩, rfl⟩
    exact ⟨kind, use, huse, hmarks, rfl⟩

theorem noteAll_append (a : Aliases) (uses more : List (TypeInfo × String)) :
    a.noteAll (uses ++ more) = (a.noteAll uses).noteAll more := List.foldl_append

/-- A function that is rendered has its uses noted; a failure changes nothing. -/
theorem run_render (name : String) (r : Run Aliases) :
    (renderer.render name).run.run r =
      ((rendering r.session.catalog name).map (·.1),
        { r with state := r.state.noteAll (usesOf r.session.catalog name) }) := by
  have hrender : renderer.render name = (Gen.catalog >>= fun c => Gen.ofExcept (Signature.resolve c name) >>= fun s =>
      Gen.ofExcept (render s) >>= fun out => Gen.modifyState (fun a => a.noteAll out.2) >>= fun _ => pure out.1) := rfl
  rw [hrender, Gen.run_noting, ← rendering, usesOf]
  cases rendering r.session.catalog name <;> rfl

/-- The library is rendered as the catalog says, and a function that fails has no uses to be noted. -/
theorem determined : renderer.Determined (fun c name => (rendering c name).map (·.1))
    fun c name a => a.noteAll (usesOf c name) := run_render

theorem foldl_noteAll (f : String → List (TypeInfo × String)) (names : List String) :
    names.foldl (fun a name => a.noteAll (f name)) a = a.noteAll (names.flatMap f) := by
  induction names generalizing a with
  | nil => rfl
  | cons name rest ih => rw [List.foldl_cons, ih, List.flatMap_cons, noteAll_append]

theorem state_of_rendersEach {results : List (String × Except Error String)} (h : renderer.RendersEach r results r') :
    r'.state = r.state.noteAll ((results.map (·.1)).flatMap (usesOf r.session.catalog)) := by
  obtain ⟨-, rfl, -⟩ := determined.of_rendersEach h
  exact foldl_noteAll _ _

/-- The text of the block of all functions. -/
def blockText (a : Aliases) (body : String) : String :=
  aliasLines "enum" a.enums ++ aliasLines "bitfield" a.bitfields ++
    "# Add argument and return types for functions imported from igraph\n" ++ body

theorem run_functions (r : Run Aliases) : target.functions.run.run r =
    match (renderer.renderEach r.session.generatable.2).run.run r.decided with
    | (.ok body, r') => (.ok (blockText r'.state body), r')
    | (.error e, r') => (.error e, r') := by
  have hall : renderer.renderAll.run.run r = (renderer.renderEach r.session.generatable.2).run.run r.decided := rfl
  have hfunctions : target.functions = (renderer.renderAll >>= fun body => Gen.state >>= fun a =>
      pure (blockText a body)) := rfl
  rw [hfunctions, Gen.run_bind, hall]
  rcases (renderer.renderEach r.session.generatable.2).run.run r.decided with ⟨_ | _, _⟩ <;> rfl

theorem functions_eq_ok_iff : target.functions.run.run r = (.ok text, r') ↔
    ∃ results, results.map (·.1) = r.session.generatable.2 ∧ renderer.RendersEach r.decided results r' ∧
      text = blockText r'.state (String.join (results.map renderer.shown)) := by
  have hok : ∀ {results r'}, results.map (·.1) = r.session.generatable.2 → renderer.RendersEach r.decided results r' →
      target.functions.run.run r = (.ok (blockText r'.state (String.join (results.map renderer.shown))), r') := by
    intro results r' hnames hresults
    rw [run_functions, ← hnames, hresults.run_eq_ok]
  constructor
  · intro h
    rcases renderer.rendersEach_or_stopsAt r.session.generatable.2 r.decided with
      ⟨results, r'', hnames, hresults⟩ | ⟨e, r'', hstops⟩
    · rw [hok hnames hresults] at h
      cases h
      exact ⟨results, hnames, hresults, rfl⟩
    · rw [run_functions, hstops.run_eq_error] at h
      cases h
  · rintro ⟨results, hnames, hresults, rfl⟩
    exact hok hnames hresults

/-- The aliases above the declarations are those there were, and the uses of the functions that are generated. -/
theorem functions_eq_ok (h : target.functions.run.run r = (.ok text, r')) :
    (∃ body, text = blockText r'.state body) ∧
      r'.state = r.state.noteAll (r.session.generatable.2.flatMap (usesOf r.session.catalog)) := by
  obtain ⟨results, hnames, hresults, rfl⟩ := functions_eq_ok_iff.mp h
  have hstate := state_of_rendersEach hresults
  obtain ⟨decisions, hdecided⟩ := r.exists_decided
  rw [hnames, hdecided] at hstate
  exact ⟨⟨_, rfl⟩, hstate⟩

/-! ### Which aliases are identifiers -/

/-- A type is named by identifiers wherever it has a type of C or of what is returned. -/
structure PlainlyNamed (t : TypeInfo) : Prop where
  cType : ∀ mode c, t.cType? mode = some c → c = "" ∨ isIdentifier c = true
  returned : ∀ c, t.text? "CTYPES_RETURN_TYPE" = some c → c = "" ∨ isIdentifier c = true

/-- A parameter is passed by pointer to an enumeration or a bit field, and the spelling of the pointer is the alias. -/
structure Misnames (p : TypedParam) (x : String) : Prop where
  aliased : isAliased p.type = true
  taken : CallSite.pythonTypes.takes p = true
  pointed : isPointed p = true
  spelled : ∃ c, p.cType? = some c ∧ spellBase c ∉ pointedBases ∧ x = "POINTER(" ++ spellBase c ++ ")"

variable {s : Signature} {p : TypedParam}

theorem isIdentifier_result (h : PlainlyNamed s.returnType) {result : String} (hresult : resultType s = .ok result) :
    isIdentifier result = true := by
  rw [resultType] at hresult
  split at hresult
  · rename_i spelled hspelled
    cases hresult
    rw [Option.filter_eq_some_iff] at hspelled
    obtain ⟨hspelled, hne⟩ := hspelled
    have hne : result ≠ "" := of_decide_eq_true hne
    split at hspelled
    · rename_i t ht
      cases hspelled
      exact (h.returned result ht).resolve_left hne
    · obtain ⟨c, hc, rfl⟩ := Option.map_eq_some_iff.mp hspelled
      rcases h.cType .output c hc with rfl | hc
      · exact absurd (by decide +kernel) hne
      · exact isIdentifier_foreignType hc
  · cases hresult

/-- What makes a parameter misnamed is the spelling of its argument, where that is no identifier. -/
theorem misnames_iff (h : PlainlyNamed p.type) (haliased : isAliased p.type = true) {function t x : String}
    (ht : argumentCType? function p = .ok (some t)) : Misnames p x ↔ x = foreignType t ∧ isIdentifier x = false := by
  obtain ⟨htakes, c, hc, rfl⟩ := argumentCType?_eq_some_iff.mp ht
  have hne : c ≠ "" := by
    rintro rfl
    simp [CallSite.takes, hc] at htakes
  have hidentifier := (h.cType p.param.mode c hc).resolve_left hne
  constructor
  · rintro ⟨-, -, hpointed, c', hc', hbase, rfl⟩
    cases hc.symm.trans hc'
    rw [if_pos hpointed, ← foreignType_pointer_of_not_mem hidentifier hbase, Bool.eq_false_iff]
    exact ⟨rfl, mt (isIdentifier_foreignType_pointer hidentifier).mp hbase⟩
  · rintro ⟨rfl, hnot⟩
    by_cases hpointed : isPointed p = true
    · rw [if_pos hpointed] at hnot ⊢
      have hbase : spellBase c ∉ pointedBases := by
        rwa [← isIdentifier_foreignType_pointer hidentifier, Bool.not_eq_true]
      exact ⟨haliased, htakes, hpointed, c, hc, hbase, foreignType_pointer_of_not_mem hidentifier hbase⟩
    · rw [if_neg hpointed, isIdentifier_foreignType hidentifier] at hnot
      cases hnot

theorem mem_argumentTypes_iff {arguments : List (TypeInfo × String)} (h : argumentTypes s = .ok arguments)
    {use : TypeInfo × String} : use ∈ arguments ↔
      ∃ p ∈ s.params, ∃ t, argumentCType? s.name p = .ok (some t) ∧ use = (p.type, foreignType t) := by
  obtain ⟨types, htypes, rfl⟩ := map_eq_ok_iff.mp h
  have hmem : use ∈ types.filterMap id ↔ some use ∈ types := by simp
  rw [hmem, mem_of_mapM_eq_ok htypes]
  refine exists_congr fun p => and_congr_right fun _ => ?_
  rw [argumentType?, map_eq_ok_iff]
  constructor
  · rintro ⟨t?, ht, heq⟩
    cases t? with
    | none => cases heq
    | some t => exact ⟨t, ht, (Option.some.inj heq).symm⟩
  · rintro ⟨t, ht, rfl⟩
    exact ⟨some t, ht, rfl⟩

/-- A function uses the type of what it returns and those of its arguments. -/
theorem mem_uses_iff (h : render s = .ok (text, uses)) {use : TypeInfo × String} : use ∈ uses ↔
    (∃ result, resultType s = .ok result ∧ use = (s.returnType, result)) ∨
      ∃ p ∈ s.params, ∃ t, argumentCType? s.name p = .ok (some t) ∧ use = (p.type, foreignType t) := by
  obtain ⟨result, arguments, hresult, harguments, -, huses⟩ := render_eq_ok_iff.mp h
  obtain rfl : uses = (s.returnType, result) :: arguments := huses
  rw [List.mem_cons, mem_argumentTypes_iff harguments]
  refine or_congr_left ⟨fun huse => ⟨result, hresult, huse⟩, ?_⟩
  rintro ⟨result', hresult', rfl⟩
  cases hresult.symm.trans hresult'
  rfl

theorem mem_usesOf_iff {use : TypeInfo × String} : use ∈ usesOf c name ↔
    ∃ s, Signature.resolve c name = .ok s ∧ ∃ text uses, render s = .ok (text, uses) ∧ use ∈ uses := by
  rw [usesOf]
  constructor
  · intro huse
    split at huse
    · rename_i text uses hrendering
      obtain ⟨s, hs, hrender⟩ := bind_eq_ok_iff.mp hrendering
      exact ⟨s, hs, text, uses, hrender, huse⟩
    · cases huse
  · rintro ⟨s, hs, text, uses, hrender, huse⟩
    have hrendering : rendering c name = .ok (text, uses) := bind_eq_ok_iff.mpr ⟨s, hs, hrender⟩
    rw [hrendering]
    exact huse

/-- A function of a catalog is rendered, and the pointer that one of its parameters is makes this alias. -/
def MakesPointer (c : Catalog) (name x : String) : Prop :=
  ∃ s, Signature.resolve c name = .ok s ∧ (∃ out, render s = .ok out) ∧ ∃ p ∈ s.params, Misnames p x

/-- A use whose spelling is no identifier is that of an argument that is misnamed. -/
theorem exists_usesOf_iff (hc : ∀ type t, c.type? type = some t → isAliased t = true → PlainlyNamed t) {x : String} :
    (∃ use ∈ usesOf c name, isAliased use.1 = true ∧ use.2 = x) ∧ isIdentifier x = false ↔ MakesPointer c name x := by
  constructor
  · rintro ⟨⟨use, huse, haliased, rfl⟩, hnot⟩
    obtain ⟨s, hs, text, uses, hrender, huse⟩ := mem_usesOf_iff.mp huse
    obtain ⟨hreturn, hparams⟩ := Signature.types_of_resolve hs
    rcases (mem_uses_iff hrender).mp huse with ⟨result, hresult, rfl⟩ | ⟨p, hp, t, ht, rfl⟩
    · -- What is returned is spelled without a pointer.
      rw [isIdentifier_result (hc _ _ hreturn haliased) hresult] at hnot
      cases hnot
    · have hmisnames := (misnames_iff (hc _ _ (hparams p hp) haliased) haliased ht).mpr ⟨rfl, hnot⟩
      exact ⟨s, hs, ⟨_, hrender⟩, p, hp, hmisnames⟩
  · rintro ⟨s, hs, ⟨⟨text, uses⟩, hrender⟩, p, hp, hmisnames⟩
    obtain ⟨-, hparams⟩ := Signature.types_of_resolve hs
    have haliased := hmisnames.aliased
    obtain ⟨ctype, hctype, -⟩ := hmisnames.spelled
    have ht : argumentCType? s.name p = .ok (some (ctype ++ "*")) :=
      argumentCType?_eq_some_iff.mpr ⟨hmisnames.taken, ctype, hctype, by rw [if_pos hmisnames.pointed]⟩
    obtain ⟨rfl, hnot⟩ := (misnames_iff (hc _ _ (hparams p hp) haliased) haliased ht).mp hmisnames
    have huse := (mem_uses_iff hrender).mpr (Or.inr ⟨p, hp, _, ht, rfl⟩)
    exact ⟨⟨_, mem_usesOf_iff.mpr ⟨s, hs, text, uses, hrender, huse⟩, haliased, rfl⟩, hnot⟩

theorem contains_blockText {x : String} (h : a.Has x) (body : String) :
    Text.contains (x ++ " = c_int\n") (blockText a body) := by
  have hlines : ∀ {kind : String} {names : NameSet}, x ∈ names →
      Text.contains (x ++ " = c_int\n") (aliasLines kind names) := by
    intro kind names hx
    have hline : x ++ " = c_int\n" ∈ names.members.map fun name => s!"{name} = c_int\n" :=
      List.mem_map.mpr ⟨x, hx, rfl⟩
    rw [aliasLines, if_neg (List.ne_nil_of_mem hx)]
    exact Text.contains_append_right _ (Text.contains_append_left _ (Text.contains_join hline))
  refine Text.contains_append_right _ (Text.contains_append_right _ ?_)
  rcases h with hx | hx
  · exact Text.contains_append_right _ (hlines hx)
  · exact Text.contains_append_left _ (hlines hx)

/-- The block of all functions, above which these aliases are made. -/
structure Aliased (c : Catalog) (names : List String) (a : Aliases) (text : String) : Prop where
  written : ∃ body, text = blockText a body
  line : ∀ x, a.Has x → Text.contains (x ++ " = c_int\n") text
  misnamed_iff : ∀ x, a.Has x ∧ isIdentifier x = false ↔ ∃ name ∈ names, MakesPointer c name x
  identifiers_iff : (∀ x, a.Has x → isIdentifier x = true) ↔ ∀ name ∈ names, ∀ x, ¬MakesPointer c name x

/-- Where enumerations and bit fields are named by identifiers, all aliases are identifiers, unless a function that is
rendered takes a pointer to one of them. -/
theorem aliased_of_functions
    (hc : ∀ type t, r.session.catalog.type? type = some t → isAliased t = true → PlainlyNamed t)
    (hstart : ∀ x, r.state.Has x → isIdentifier x = true) (h : target.functions.run.run r = (.ok text, r')) :
    Aliased r.session.catalog r.session.generatable.2 r'.state text := by
  obtain ⟨⟨body, rfl⟩, hstate⟩ := functions_eq_ok h
  have hmisnamed : ∀ x, r'.state.Has x ∧ isIdentifier x = false ↔
      ∃ name ∈ r.session.generatable.2, MakesPointer r.session.catalog name x := by
    intro x
    simp only [← exists_usesOf_iff hc]
    rw [hstate, has_noteAll_iff]
    constructor
    · rintro ⟨hx | ⟨use, huse, hx⟩, hnot⟩
      · rw [hstart x hx] at hnot
        cases hnot
      · obtain ⟨name, hname, huse⟩ := List.mem_flatMap.mp huse
        exact ⟨name, hname, ⟨use, huse, hx⟩, hnot⟩
    · rintro ⟨name, hname, ⟨use, huse, hx⟩, hnot⟩
      exact ⟨Or.inr ⟨use, List.mem_flatMap.mpr ⟨name, hname, huse⟩, hx⟩, hnot⟩
  refine ⟨⟨body, rfl⟩, fun x hx => contains_blockText hx body, hmisnamed, fun hall name hname x hx => ?_,
    fun hnone x hx => ?_⟩
  · obtain ⟨hhas, hnot⟩ := (hmisnamed x).mpr ⟨name, hname, hx⟩
    rw [hall x hhas] at hnot
    cases hnot
  · by_contra hnot
    obtain ⟨name, hname, huses⟩ := (hmisnamed x).mp ⟨hx, by simpa using hnot⟩
    exact hnone name hname x huses

/-- A catalog with a function `f` that writes an enumeration, which is passed in this way. -/
def catalogPassing (call : String) : Catalog where
  functions := [("f", { Function.new "f" true with attrs := [("PARAMS", .text "OUT MODE x")] })]
  types := [("MODE", { TypeInfo.new "MODE" with
    attrs := [("CTYPE", .text "mode_t"), ("CALL", .text call)], flags := NameSet.empty.insert "enum" }),
    ("ERROR", { TypeInfo.new "ERROR" with attrs := [("CTYPE", .text "int")] })]
  strict := true

theorem plainlyNamed_catalogPassing (call : String) :
    ∀ type t, (catalogPassing call).type? type = some t → isAliased t = true → PlainlyNamed t := by
  intro type t ht haliased
  simp only [Catalog.type?, catalogPassing, Entries.get?] at ht
  split at ht
  · cases ht
    refine ⟨fun mode c hc => ?_, fun c hc => ?_⟩ <;> cases hc
    exact Or.inr (by decide)
  · split at ht <;> cases ht
    cases haliased

/-- The enumeration is passed by value, and its alias is its own name. -/
theorem aliased_of_functions_value :
    let r : Run Aliases := ⟨.start (catalogPassing "%C%") "PythonCTypes" .default, .empty⟩
    ∃ text r', target.functions.run.run r = (.ok text, r') ∧ Text.contains "mode_t = c_int\n" text ∧
      ∀ x, r'.state.Has x → isIdentifier x = true := by
  intro r
  obtain ⟨text, htext, -⟩ := map_eq_ok_iff.mp (show
    ((target.functions.run.run r).1.map fun _ => ()) = .ok () by decide +kernel)
  have hrun : target.functions.run.run r = (.ok text, (target.functions.run.run r).2) := Prod.ext htext rfl
  have hempty : ∀ x, r.state.Has x → isIdentifier x = true := fun x hx =>
    (hx.elim (NameSet.not_mem_empty x) (NameSet.not_mem_empty x)).elim
  have h := aliased_of_functions (plainlyNamed_catalogPassing "%C%") hempty hrun
  have hhas : (target.functions.run.run r).2.state.Has "mode_t" := Or.inl (by decide +kernel)
  have hline : "mode_t" ++ " = c_int\n" = "mode_t = c_int\n" := rfl
  have hnames : r.session.generatable.2 = ["f"] := by decide +kernel
  have hvalue : (Signature.resolve (catalogPassing "%C%") "f").map (fun s => s.params.all (!isPointed ·)) =
      .ok true := by decide +kernel
  obtain ⟨s, hs, hall⟩ := map_eq_ok_iff.mp hvalue
  refine ⟨text, _, hrun, hline ▸ h.line _ hhas, h.identifiers_iff.mpr fun name hname x huses => ?_⟩
  rw [hnames, List.mem_singleton] at hname
  subst hname
  obtain ⟨s', hs', -, p, hp, hmisnames⟩ := huses
  cases hs.symm.trans hs'
  have hnot := List.all_eq_true.mp hall p hp
  rw [hmisnames.pointed] at hnot
  cases hnot

/-- A pointer to the enumeration is made an alias, which is no name. -/
theorem functions_misnames_alias :
    (∀ type t, (catalogPassing "&%C%").type? type = some t → isAliased t = true → PlainlyNamed t) ∧
      (target.functions.run.run ⟨.start (catalogPassing "&%C%") "PythonCTypes" .default, .empty⟩).1 =
        .ok ("# Set up aliases for all enum types\n\nPOINTER(mode_t) = c_int\n\n" ++
          "# Add argument and return types for functions imported from igraph\n" ++
          "\nf = _lib.f\nf.restype = c_int\nf.argtypes = [POINTER(mode_t)]\n") ∧
      isIdentifier "POINTER(mode_t)" = false :=
  ⟨plainlyNamed_catalogPassing _, by decide +kernel, by decide⟩

end Target.Python.Library
end Bindery
