import Bindery.Proofs.Except
import Bindery.Proofs.Template.Marks
import Bindery.Template.Substitution

/-! # Filling in one pass

What a mark stands for is said of the letter and the digits that are written (`Substitution.Binds`). A template is cut
at its marks, in the only way there is, and filled by putting the value of each mark in its place; the values are not
looked at again. The first mark that stands for nothing is reported (`Substitution.onePass`). -/

namespace Bindery.Template

/-- The number that ASCII digits write, if it is within bounds. -/
structure Numeral (digits : List Char) (n : Nat) : Prop where
  nonempty : digits ≠ []
  ascii : ∀ c ∈ digits, c.isDigit
  value : Nat.ofDigitChars 10 digits 0 = n
  bounded : n < UInt64.size

theorem Mark.number?_eq_some_iff {digits : List Char} {n : Nat} (h : digits ≠ []) :
    number? digits = some n ↔ Numeral digits n := by
  have hbound : numberBound = UInt64.size := by decide
  simp only [number?, Option.bind_eq_some_iff, Option.ite_none_right_eq_some, Option.some.injEq, hbound,
    Text.decimalValue?_eq_some_iff]
  constructor
  · rintro ⟨_, ⟨hascii, hvalue⟩, hbounded, rfl⟩
    exact ⟨h, hascii, hvalue, hbounded⟩
  · rintro ⟨-, hascii, hvalue, hbounded⟩
    exact ⟨n, ⟨hascii, hvalue⟩, hbounded, rfl⟩

/-! ### What a mark writes -/

namespace Mark
variable {m : Mark} {p : Placeholder}

/-- The placeholder that a mark writes. -/
inductive Writes : Mark → Placeholder → Prop
  | concreteType : Writes ⟨'T', []⟩ .concreteType
  | internalName : Writes ⟨'C', []⟩ .internalName
  | interfaceName : Writes ⟨'I', []⟩ .interfaceName
  | internalOf {digits : List Char} {n : Nat} (hn : Numeral digits n) : Writes ⟨'C', digits⟩ (.internalOf n)
  | interfaceOf {digits : List Char} {n : Nat} (hn : Numeral digits n) : Writes ⟨'I', digits⟩ (.interfaceOf n)

theorem placeholder?_number {letter : Char} {digits : List Char} (hletter : letter ≠ 'T') (h : digits ≠ []) :
    placeholder? ⟨letter, digits⟩ =
      (number? digits).map fun n => if letter = 'C' then .internalOf n else .interfaceOf n := by
  rw [placeholder?, if_neg hletter, if_neg h]

theorem placeholder?_of_writes (h : m.Writes p) : m.placeholder? = some p := by
  cases h with
  | concreteType => rfl
  | internalName => rfl
  | interfaceName => rfl
  | internalOf hn =>
    rw [placeholder?_number (by decide) hn.nonempty, (number?_eq_some_iff hn.nonempty).mpr hn]
    rfl
  | interfaceOf hn =>
    rw [placeholder?_number (by decide) hn.nonempty, (number?_eq_some_iff hn.nonempty).mpr hn]
    rfl

theorem writes_of_number {letter : Char} {digits : List Char} (hletter : letter = 'C' ∨ letter = 'I')
    (hne : digits ≠ []) (h : placeholder? ⟨letter, digits⟩ = some p) : Writes ⟨letter, digits⟩ p := by
  have hnotType : letter ≠ 'T' := by
    rcases hletter with rfl | rfl <;> decide
  rw [placeholder?_number hnotType hne, Option.map_eq_some_iff] at h
  obtain ⟨n, hnumber, rfl⟩ := h
  have hn := (number?_eq_some_iff hne).mp hnumber
  rcases hletter with rfl | rfl
  · exact .internalOf hn
  · exact .interfaceOf hn

theorem writes_iff (hm : m.Formed) : m.Writes p ↔ m.placeholder? = some p := by
  refine ⟨placeholder?_of_writes, fun h => ?_⟩
  cases hm with
  | type =>
    cases h
    exact .concreteType
  | @name letter digits hletter _ =>
    by_cases hdigits : digits = []
    · subst hdigits
      rcases hletter with rfl | rfl
      · cases h
        exact .internalName
      · cases h
        exact .interfaceName
    · exact writes_of_number hletter hdigits h

end Mark

namespace Substitution
variable {s : Substitution} {m : Mark} {v : String} {cuts : List (List Char × Mark)} {tail : List Char}

/-- What a mark stands for. A number counts the dependencies from one. -/
inductive Binds (s : Substitution) : Mark → String → Prop
  | concrete : Binds s ⟨'T', []⟩ s.concrete
  | internal : Binds s ⟨'C', []⟩ s.internal
  | interface : Binds s ⟨'I', []⟩ s.interface
  | internalOf {digits : List Char} {i : Nat} {names : String × String} (hn : Numeral digits (i + 1))
      (hnames : s.dependencies[i]? = some names) : Binds s ⟨'C', digits⟩ names.1
  | interfaceOf {digits : List Char} {i : Nat} {names : String × String} (hn : Numeral digits (i + 1))
      (hnames : s.dependencies[i]? = some names) : Binds s ⟨'I', digits⟩ names.2

theorem dependency?_eq_some_iff {n : Nat} {names : String × String} :
    s.dependency? n = some names ↔ ∃ i, n = i + 1 ∧ s.dependencies[i]? = some names := by
  cases n with
  | zero => simp [dependency?]
  | succ i => simp [dependency?]

/-- A mark stands for the value of the placeholder that it writes. -/
theorem binds_iff_writes : s.Binds m v ↔ ∃ p, m.Writes p ∧ s.value? p = some v := by
  constructor
  · intro h
    cases h with
    | concrete => exact ⟨_, .concreteType, rfl⟩
    | internal => exact ⟨_, .internalName, rfl⟩
    | interface => exact ⟨_, .interfaceName, rfl⟩
    | internalOf hn hnames => exact ⟨_, .internalOf hn, by simp [value?, dependency?, hnames]⟩
    | interfaceOf hn hnames => exact ⟨_, .interfaceOf hn, by simp [value?, dependency?, hnames]⟩
  · rintro ⟨p, hp, hv⟩
    cases hp with
    | concreteType =>
      cases hv
      exact .concrete
    | internalName =>
      cases hv
      exact .internal
    | interfaceName =>
      cases hv
      exact .interface
    | internalOf hn =>
      obtain ⟨names, hnames, rfl⟩ := Option.map_eq_some_iff.mp hv
      obtain ⟨i, rfl, hnames⟩ := dependency?_eq_some_iff.mp hnames
      exact .internalOf hn hnames
    | interfaceOf hn =>
      obtain ⟨names, hnames, rfl⟩ := Option.map_eq_some_iff.mp hv
      obtain ⟨i, rfl, hnames⟩ := dependency?_eq_some_iff.mp hnames
      exact .interfaceOf hn hnames

theorem value?_of_binds (h : s.Binds m v) : m.placeholder?.bind s.value? = some v := by
  obtain ⟨p, hp, hv⟩ := binds_iff_writes.mp h
  rw [Mark.placeholder?_of_writes hp, Option.bind_some, hv]

theorem binds_iff (h : m.Formed) : s.Binds m v ↔ m.placeholder?.bind s.value? = some v := by
  simp only [binds_iff_writes, Mark.writes_iff h, Option.bind_eq_some_iff]

/-- A number stands for something if it is that of a dependency. -/
theorem exists_binds_iff (h : m.Formed) (hdigits : m.digits ≠ []) :
    (∃ v, s.Binds m v) ↔ ∃ n, Numeral m.digits n ∧ 1 ≤ n ∧ n ≤ s.dependencies.length := by
  constructor
  · rintro ⟨v, hv⟩
    cases hv with
    | concrete => exact absurd rfl hdigits
    | internal => exact absurd rfl hdigits
    | interface => exact absurd rfl hdigits
    | internalOf hn hnames => exact ⟨_, hn, Nat.succ_pos _, (List.getElem?_eq_some_iff.mp hnames).1⟩
    | interfaceOf hn hnames => exact ⟨_, hn, Nat.succ_pos _, (List.getElem?_eq_some_iff.mp hnames).1⟩
  · rintro ⟨n, hn, hpos, hlength⟩
    obtain ⟨i, rfl⟩ := Nat.exists_eq_succ_of_ne_zero (Nat.one_le_iff_ne_zero.mp hpos)
    have hnames : s.dependencies[i]? = some s.dependencies[i] := List.getElem?_eq_getElem hlength
    cases h with
    | type => exact absurd rfl hdigits
    | name hletter =>
      rcases hletter with rfl | rfl
      · exact ⟨_, .internalOf hn hnames⟩
      · exact ⟨_, .interfaceOf hn hnames⟩

/-! ### Filling what has been cut -/

theorem fillPieces_plain (plain : List Char) (ps : List Piece) :
    s.fillPieces (plain.map .plain ++ ps) = (s.fillPieces ps).map (plain ++ ·) := by
  induction plain with
  | nil => cases h : s.fillPieces ps <;> simp [h, Except.map]
  | cons c plain ih =>
    rw [List.map_cons, List.cons_append, fillPieces, fillPiece, ih]
    cases s.fillPieces ps <;> simp [Except.map]

theorem fillPieces_of_binds (h : s.Binds m v) (ps : List Piece) :
    s.fillPieces (.mark m :: ps) = (s.fillPieces ps).map (v.toList ++ ·) := by
  rw [fillPieces, fillPiece, value?_of_binds h]

theorem fillPieces_of_not_binds (hm : m.Formed) (h : ∀ v, ¬s.Binds m v) (ps : List Piece) :
    s.fillPieces (.mark m :: ps) = .error (s.unresolved m) := by
  have hnone : m.placeholder?.bind s.value? = none :=
    Option.eq_none_iff_forall_ne_some.mpr fun v hv => h v ((binds_iff hm).mpr hv)
  rw [fillPieces, fillPiece, hnone]

/-- The text up to the plain text at the end, with values in the place of the marks. -/
def filled (cuts : List (List Char × Mark)) (values : List String) : List Char :=
  (List.zipWith (fun cut v => cut.1 ++ v.toList) cuts values).flatten

theorem fillPieces_cut {cs : List Char} (h : Cut cs cuts tail) {values : List String}
    (hvalues : List.Forall₂ (fun cut v => s.Binds cut.2 v) cuts values) :
    s.fillPieces (piecesFrom 0 cs) = .ok (filled cuts values ++ tail) := by
  rw [piecesFrom_cut h]
  clear h
  induction hvalues with
  | nil => simpa [fillPieces, Except.map, filled] using fillPieces_plain (s := s) tail []
  | @cons cut v cuts values hv _ ih =>
    rw [List.flatMap_cons, List.append_assoc, List.append_assoc, List.singleton_append, fillPieces_plain,
      fillPieces_of_binds hv, ih]
    simp [Except.map, filled]

theorem fillPieces_cut_error {cs plain : List Char} {before after : List (List Char × Mark)}
    (h : Cut cs (before ++ (plain, m) :: after) tail) (hbefore : ∀ cut ∈ before, ∃ v, s.Binds cut.2 v)
    (hm : ∀ v, ¬s.Binds m v) : s.fillPieces (piecesFrom 0 cs) = .error (s.unresolved m) := by
  have hformed : m.Formed := h.formed (plain, m) (by simp)
  rw [piecesFrom_cut h]
  clear h
  induction before with
  | nil =>
    rw [List.nil_append, List.flatMap_cons, List.append_assoc, List.append_assoc, List.singleton_append,
      fillPieces_plain, fillPieces_of_not_binds hformed hm, Except.map]
  | cons cut before ih =>
    rw [List.forall_mem_cons] at hbefore
    obtain ⟨⟨v, hv⟩, hbefore⟩ := hbefore
    rw [List.cons_append, List.flatMap_cons, List.append_assoc, List.append_assoc, List.singleton_append,
      fillPieces_plain, fillPieces_of_binds hv, ih hbefore, Except.map, Except.map]

/-- Either every mark stands for something, or there is a first one that does not. -/
theorem exists_values_or_first (s : Substitution) (cuts : List (List Char × Mark)) :
    (∃ values, List.Forall₂ (fun cut v => s.Binds cut.2 v) cuts values) ∨
      ∃ before plain m after, cuts = before ++ (plain, m) :: after ∧ (∀ cut ∈ before, ∃ v, s.Binds cut.2 v) ∧
        ∀ v, ¬s.Binds m v := by
  induction cuts with
  | nil => exact Or.inl ⟨[], .nil⟩
  | cons cut cuts ih =>
    by_cases hbound : ∃ v, s.Binds cut.2 v
    · rcases ih with ⟨values, hvalues⟩ | ⟨before, plain, m, after, rfl, hbefore, hm⟩
      · obtain ⟨v, hv⟩ := hbound
        exact Or.inl ⟨v :: values, .cons hv hvalues⟩
      · exact Or.inr ⟨cut :: before, plain, m, after, rfl, List.forall_mem_cons.mpr ⟨hbound, hbefore⟩, hm⟩
    · exact Or.inr ⟨[], cut.1, cut.2, cuts, rfl, nofun, not_exists.mp hbound⟩

/-- How a template is filled: it is cut at its marks, and each gives way to what it stands for. -/
structure OnePass (s : Substitution) (template : String) (cuts : List (List Char × Mark)) (tail : List Char) : Prop where
  cut : Cut template.toList cuts tail
  unique : ∀ cuts' tail', Cut template.toList cuts' tail' → cuts' = cuts ∧ tail' = tail
  written : template.toList = (cuts.flatMap fun cut => cut.1 ++ cut.2.chars) ++ tail
  numbered : ∀ cut ∈ cuts, cut.2.digits ≠ [] →
    ((∃ v, s.Binds cut.2 v) ↔ ∃ n, Numeral cut.2.digits n ∧ 1 ≤ n ∧ n ≤ s.dependencies.length)
  ok_iff : ∀ text, s.fill template = .ok text ↔
    ∃ values, List.Forall₂ (fun cut v => s.Binds cut.2 v) cuts values ∧ text.toList = filled cuts values ++ tail
  error_iff : ∀ e, s.fill template = .error e ↔
    ∃ before plain m after, cuts = before ++ (plain, m) :: after ∧ (∀ cut ∈ before, ∃ v, s.Binds cut.2 v) ∧
      (∀ v, ¬s.Binds m v) ∧
      e = .unresolvedPlaceholder s.function s.parameter s.typeName (String.ofList m.chars)

theorem fill_ok_of_cut {template : String} (h : Cut template.toList cuts tail) {values : List String}
    (hvalues : List.Forall₂ (fun cut v => s.Binds cut.2 v) cuts values) :
    s.fill template = .ok (String.ofList (filled cuts values ++ tail)) := by
  rw [fill, pieces, fillPieces_cut h hvalues, Except.map]

theorem fill_error_of_cut {template : String} {plain : List Char} {before after : List (List Char × Mark)}
    (h : Cut template.toList (before ++ (plain, m) :: after) tail) (hbefore : ∀ cut ∈ before, ∃ v, s.Binds cut.2 v)
    (hm : ∀ v, ¬s.Binds m v) : s.fill template = .error (s.unresolved m) := by
  rw [fill, pieces, fillPieces_cut_error h hbefore hm, Except.map]

/-- Every mark of a template stands for something. -/
def Resolves (s : Substitution) (template : String) : Prop :=
  ∀ cuts tail, Cut template.toList cuts tail → ∀ cut ∈ cuts, ∃ v, s.Binds cut.2 v

theorem exists_fill_iff {template : String} : (∃ text, s.fill template = .ok text) ↔ s.Resolves template := by
  constructor
  · rintro ⟨text, htext⟩ cuts tail hcut
    rcases exists_values_or_first s cuts with hvalues | ⟨before, plain, m, after, rfl, hbefore, hm⟩
    · exact exists_forall₂_iff.mp hvalues
    · rw [fill_error_of_cut hcut hbefore hm] at htext
      cases htext
  · intro h
    obtain ⟨cuts, tail, hcut⟩ := exists_cut template.toList
    obtain ⟨values, hvalues⟩ := exists_forall₂_iff.mpr (h cuts tail hcut)
    exact ⟨_, fill_ok_of_cut hcut hvalues⟩

/-- Every template is filled in one pass, along the only cut that there is. -/
theorem onePass (s : Substitution) (template : String) : ∃ cuts tail, OnePass s template cuts tail := by
  obtain ⟨cuts, tail, hcut⟩ := exists_cut template.toList
  refine ⟨cuts, tail, hcut, fun _ _ => hcut.unique, hcut.written, fun cut hmem hdigits => ?_, fun text => ?_, fun e => ?_⟩
  · exact exists_binds_iff (hcut.formed cut hmem) hdigits
  · constructor
    · intro h
      rcases exists_values_or_first s cuts with ⟨values, hvalues⟩ | ⟨before, plain, m, after, rfl, hbefore, hm⟩
      · rw [fill_ok_of_cut hcut hvalues] at h
        cases h
        exact ⟨values, hvalues, String.toList_ofList⟩
      · rw [fill_error_of_cut hcut hbefore hm] at h
        cases h
    · rintro ⟨values, hvalues, htext⟩
      rw [fill_ok_of_cut hcut hvalues, ← htext, String.ofList_toList]
  · constructor
    · intro h
      rcases exists_values_or_first s cuts with ⟨values, hvalues⟩ | ⟨before, plain, m, after, rfl, hbefore, hm⟩
      · rw [fill_ok_of_cut hcut hvalues] at h
        cases h
      · rw [fill_error_of_cut hcut hbefore hm] at h
        cases h
        exact ⟨before, plain, m, after, rfl, hbefore, hm, rfl⟩
    · rintro ⟨before, plain, m, after, rfl, hbefore, hm, rfl⟩
      exact fill_error_of_cut hcut hbefore hm

example : (plain "f" "x" "INT").fill "100%%C%T%" = .ok "100%xT%" := by decide +kernel

end Substitution
end Bindery.Template
