import Bindery.Proofs.Template.Filling

/-! # Placeholders as they are written

A text is read as a placeholder if it is a mark from its first character to its last, and the mark writes the
placeholder (`Placeholder.parse?_eq_some_iff`). What a placeholder is written as is read back as long as its number has
no more than 64 bits; of all texts that are read as the placeholder it is the one without leading zeros
(`Placeholder.readsBack`). -/

namespace Bindery

namespace Text
variable {c : Char}

theorem exists_digitChar (h : c.isDigit) : ∃ d < 10, c = Nat.digitChar d := by
  rw [Char.isDigit, Bool.and_eq_true, decide_eq_true_iff, decide_eq_true_iff] at h
  have hlow : 48 ≤ c.toNat := h.1
  have hhigh : c.toNat ≤ 57 := h.2
  have hd : c.toNat - 48 < 10 := by omega
  refine ⟨c.toNat - 48, hd, ?_⟩
  rw [← Char.toNat_inj, Nat.toNat_digitChar_of_lt_ten hd]
  omega

theorem isDecimal_of_isDigit (h : c.isDigit) : isDecimal c := by
  have hascii : ∀ d < 10, isDecimal (Nat.digitChar d) := by decide
  obtain ⟨d, hd, rfl⟩ := exists_digitChar h
  exact hascii d hd

end Text

namespace Template
variable {digits : List Char} {n : Nat} {m : Mark} {p : Placeholder} {token : String}

/-! ### Leading zeros -/

/-- A text without the zeros at its beginning that have a digit after them. -/
def dropZeros : List Char → List Char
  | '0' :: c :: cs => if c.isDigit then dropZeros (c :: cs) else '0' :: c :: cs
  | cs => cs

/-- A text without the leading zeros of the number after its second character; a zero that stands alone is kept. -/
def shortened (token : String) : String := String.ofList (token.toList.take 2 ++ dropZeros (token.toList.drop 2))

/-- Digits that follow a number other than zero are its further digits. -/
theorem toDigits_append_digits {acc : Nat} (hacc : 0 < acc) (hascii : ∀ c ∈ digits, c.isDigit) :
    Nat.toDigits 10 acc ++ digits = Nat.toDigits 10 (Nat.ofDigitChars 10 digits acc) := by
  induction digits generalizing acc with
  | nil => rw [List.append_nil, Nat.ofDigitChars_nil]
  | cons c digits ih =>
    rw [List.forall_mem_cons] at hascii
    obtain ⟨d, hd, rfl⟩ := Text.exists_digitChar hascii.1
    have hpos : 0 < 10 * acc + d := by omega
    rw [Nat.ofDigitChars_cons_digitChar_of_lt_ten hd, ← ih hpos hascii.2,
      ← Nat.toDigits_append_toDigits (by decide) hacc hd, Nat.toDigits_of_lt_base hd, List.append_assoc,
      List.singleton_append]

/-- Without its leading zeros a number is written as it is shown. -/
theorem dropZeros_append_percent (hne : digits ≠ []) (hascii : ∀ c ∈ digits, c.isDigit) :
    dropZeros (digits ++ ['%']) = Nat.toDigits 10 (Nat.ofDigitChars 10 digits 0) ++ ['%'] := by
  induction digits with
  | nil => exact absurd rfl hne
  | cons c digits ih =>
    rw [List.forall_mem_cons] at hascii
    obtain ⟨d, hd, rfl⟩ := Text.exists_digitChar hascii.1
    rw [Nat.ofDigitChars_cons_digitChar_of_lt_ten hd, Nat.mul_zero, Nat.zero_add]
    -- A zero is dropped unless it is the last digit; with another digit the number has begun.
    rcases Nat.eq_zero_or_pos d with rfl | hpos
    · cases digits with
      | nil => rfl
      | cons c digits =>
        have hc : c.isDigit := hascii.2 c List.mem_cons_self
        have hdrop : dropZeros (Nat.digitChar 0 :: c :: digits ++ ['%']) = dropZeros (c :: digits ++ ['%']) :=
          if_pos hc
        rw [hdrop, ih (List.cons_ne_nil _ _) hascii.2]
    · have hkept : dropZeros (Nat.digitChar d :: digits ++ ['%']) = Nat.digitChar d :: digits ++ ['%'] := by
        unfold dropZeros
        split
        · rename_i heq
          have hzero : Nat.digitChar d = '0' := (List.cons.inj heq).1
          rw [Nat.digitChar_eq_zero] at hzero
          omega
        · rfl
      rw [hkept, ← toDigits_append_digits hpos hascii.2, Nat.toDigits_of_lt_base hd, List.singleton_append]

/-! ### Texts that are placeholders as a whole -/

theorem Mark.formed_of_writes (h : m.Writes p) : m.Formed := by
  cases h with
  | concreteType => exact .type
  | internalName => exact .name (Or.inl rfl) nofun
  | interfaceName => exact .name (Or.inr rfl) nofun
  | internalOf hn => exact .name (Or.inl rfl) fun c hc => Text.isDecimal_of_isDigit (hn.ascii c hc)
  | interfaceOf hn => exact .name (Or.inr rfl) fun c hc => Text.isDecimal_of_isDigit (hn.ascii c hc)

theorem eq_chars_of_piecesFrom {cs : List Char} (h : piecesFrom 0 cs = [.mark m]) : m.Formed ∧ cs = m.chars := by
  obtain ⟨cuts, tail, hcut⟩ := exists_cut cs
  rw [piecesFrom_cut hcut] at h
  have hformed := hcut.formed
  rw [hcut.written]
  match cuts with
  | [] => cases tail <;> simp at h
  | (c :: plain, m') :: cuts => simp at h
  | ([], m') :: cuts =>
    simp only [List.flatMap_cons, List.map_nil, List.nil_append, List.cons_append, List.cons.injEq, Piece.mark.injEq,
      List.append_eq_nil_iff, List.flatMap_eq_nil_iff, List.map_eq_nil_iff] at h
    obtain ⟨rfl, hcuts, rfl⟩ := h
    cases cuts with
    | nil => exact ⟨hformed _ List.mem_cons_self, by simp⟩
    | cons cut cuts => exact absurd (hcuts cut List.mem_cons_self) (by simp)

/-- A text is read as a placeholder if it is a mark as a whole, and the mark writes the placeholder. -/
theorem Placeholder.parse?_eq_some_iff : parse? token = some p ↔ ∃ m : Mark, m.Writes p ∧ token.toList = m.chars := by
  constructor
  · intro h
    rw [parse?] at h
    split at h
    · rename_i m hpieces
      obtain ⟨hm, htoken⟩ := eq_chars_of_piecesFrom hpieces
      exact ⟨m, (Mark.writes_iff hm).mpr h, htoken⟩
    · cases h
  · rintro ⟨m, hm, htoken⟩
    have hpieces := piecesFrom_chars (Mark.formed_of_writes hm) []
    rw [List.append_nil, ← htoken] at hpieces
    rw [parse?, pieces, hpieces]
    exact (Mark.writes_iff (Mark.formed_of_writes hm)).mp hm

namespace Placeholder

/-- The number of a dependency that is written in it. -/
def number? : Placeholder → Option Nat
  | internalOf n | interfaceOf n => some n
  | concreteType | internalName | interfaceName => none

/-- A number that is written in it has no more than 64 bits. -/
def Fits (p : Placeholder) : Prop := ∀ n, p.number? = some n → n < UInt64.size

/-- The mark that it is written as. -/
def mark : Placeholder → Mark
  | concreteType => ⟨'T', []⟩
  | internalName => ⟨'C', []⟩
  | interfaceName => ⟨'I', []⟩
  | internalOf n => ⟨'C', Nat.toDigits 10 n⟩
  | interfaceOf n => ⟨'I', Nat.toDigits 10 n⟩

theorem toList_show (p : Placeholder) : p.show.toList = p.mark.chars := by
  cases p with
  | concreteType | internalName | interfaceName => rfl
  | internalOf n | interfaceOf n => simp [Placeholder.show, mark, Mark.chars, toString]

theorem formed_mark (p : Placeholder) : p.mark.Formed := by
  have hdecimal (n : Nat) : ∀ c ∈ Nat.toDigits 10 n, Text.isDecimal c := fun c hc =>
    Text.isDecimal_of_isDigit (Nat.isDigit_of_mem_toDigits (by decide) (by decide) hc)
  cases p with
  | concreteType => exact .type
  | internalName => exact .name (Or.inl rfl) nofun
  | interfaceName => exact .name (Or.inr rfl) nofun
  | internalOf n => exact .name (Or.inl rfl) (hdecimal n)
  | interfaceOf n => exact .name (Or.inr rfl) (hdecimal n)

theorem numeral_toDigits_iff {k : Nat} : Numeral (Nat.toDigits 10 n) k ↔ k = n ∧ n < UInt64.size := by
  constructor
  · intro h
    have hvalue : n = k := by rw [← h.value, Nat.ofDigitChars_ten_toDigits]
    exact ⟨hvalue.symm, hvalue ▸ h.bounded⟩
  · rintro ⟨rfl, hbounded⟩
    exact ⟨Nat.toDigits_ne_nil, fun c hc => Nat.isDigit_of_mem_toDigits (by decide) (by decide) hc,
      Nat.ofDigitChars_ten_toDigits, hbounded⟩

/-- What a placeholder is written as writes it and no other. -/
theorem writes_mark_iff {q : Placeholder} : p.mark.Writes q ↔ q = p ∧ p.Fits := by
  rw [Mark.writes_iff p.formed_mark]
  cases p with
  | concreteType | internalName | interfaceName => simp [mark, Mark.placeholder?, Fits, number?, eq_comm]
  | internalOf n | interfaceOf n =>
    rw [mark, Mark.placeholder?_number (by decide) Nat.toDigits_ne_nil, Option.map_eq_some_iff]
    simp only [Mark.number?_eq_some_iff Nat.toDigits_ne_nil, numeral_toDigits_iff, Fits, number?]
    grind

theorem parse?_show_iff {q : Placeholder} : parse? p.show = some q ↔ q = p ∧ p.Fits := by
  rw [parse?_eq_some_iff]
  constructor
  · rintro ⟨m, hm, hchars⟩
    rw [toList_show] at hchars
    obtain rfl : p.mark = m :=
      Mark.eq_of_prefix p.formed_mark (Mark.formed_of_writes hm) List.prefix_rfl (hchars ▸ List.prefix_rfl)
    exact writes_mark_iff.mp hm
  · exact fun h => ⟨p.mark, writes_mark_iff.mpr h, p.toList_show⟩

theorem shortened_of_number {letter : Char} (hn : Numeral digits n) (h : token.toList = Mark.chars ⟨letter, digits⟩) :
    shortened token = String.ofList (Mark.chars ⟨letter, Nat.toDigits 10 n⟩) := by
  have hdrop := dropZeros_append_percent hn.nonempty hn.ascii
  rw [hn.value] at hdrop
  rw [shortened, h]
  exact congrArg (fun cs => String.ofList ('%' :: letter :: cs)) hdrop

theorem shortened_of_writes (hm : m.Writes p) (h : token.toList = m.chars) : shortened token = p.show := by
  rw [← String.ofList_toList (s := p.show), toList_show]
  cases hm with
  | concreteType | internalName | interfaceName =>
    rw [shortened, h]
    rfl
  | internalOf hn | interfaceOf hn => exact shortened_of_number hn h

theorem placeholders_of_parse? (h : parse? token = some p) : placeholders token = [p] := by
  rw [parse?] at h
  split at h
  · rename_i m hpieces
    rw [placeholders, marks, hpieces]
    simp [h]
  · cases h

/-- A placeholder is read back from its written form as long as its number fits. A text that is read as a placeholder
has no other placeholder in it, and without its leading zeros it is the written form. -/
theorem readsBack (p : Placeholder) :
    (parse? p.show = some p ↔ p.Fits) ∧
      ∀ token, parse? token = some p → placeholders token = [p] ∧ p.show = shortened token := by
  refine ⟨by simp [parse?_show_iff], fun token h => ⟨placeholders_of_parse? h, ?_⟩⟩
  obtain ⟨m, hm, htoken⟩ := parse?_eq_some_iff.mp h
  exact (shortened_of_writes hm htoken).symm

theorem readsBack_zeros :
    parse? "%C007%" = some (.internalOf 7) ∧ placeholders "%C007%" = [.internalOf 7] ∧
      (internalOf 7).show = shortened "%C007%" := by
  have hparse : parse? "%C007%" = some (.internalOf 7) := by decide
  exact ⟨hparse, (readsBack _).2 _ hparse⟩

example : parse? "%I18446744073709551616%" = none ∧ shortened "%C00%" = "%C0%" := by decide +kernel

end Placeholder

/-! ### Filling a placeholder -/

namespace Substitution
variable {s : Substitution} {v : String}

/-- A template that is a placeholder as a whole becomes its value. -/
theorem fill_of_parse? (hparse : Placeholder.parse? token = some p) (hvalue : s.value? p = some v) :
    s.fill token = .ok v := by
  rw [Placeholder.parse?] at hparse
  split at hparse
  · rename_i m hpieces
    rw [fill, hpieces, fillPieces, fillPiece, hparse, Option.bind_some, hvalue]
    simp [fillPieces, Except.map]
  · cases hparse

/-- Without a value there is no text, whatever its number. -/
theorem fill_show_of_none (hvalue : s.value? p = none) :
    s.fill p.show = .error (.unresolvedPlaceholder s.function s.parameter s.typeName p.show) := by
  have hpieces : pieces p.show = [.mark p.mark] := by
    have hall := piecesFrom_chars p.formed_mark []
    rwa [List.append_nil, ← p.toList_show] at hall
  have hnone : ∀ v, ¬s.Binds p.mark v := by
    intro v hv
    obtain ⟨q, hq, hqv⟩ := binds_iff_writes.mp hv
    rw [(Placeholder.writes_mark_iff.mp hq).1, hvalue] at hqv
    cases hqv
  rw [fill, hpieces, fillPieces_of_not_binds p.formed_mark hnone, Except.map, unresolved, ← p.toList_show,
    String.ofList_toList]

end Substitution

end Template
end Bindery
