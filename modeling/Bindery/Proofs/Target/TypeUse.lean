import Bindery.Proofs.Entries
import Bindery.Proofs.Signature
import Bindery.Proofs.Target.Determined
import Bindery.Target.Check.TypeUse
import Mathlib.Algebra.GroupWithZero.Nat
import Mathlib.Data.List.Perm.Basic

/-! # Counting the uses of types

A tally counts a name exactly as often as it has been added, wherever the order puts it (`Tally.count_addAll`). So the
lines that list the types give for each of them the number of its uses, for parameters and for what is returned
(`TypeUse.counted_of_validate`). -/

namespace Bindery

/-! ### Tallies -/

theorem get?_countName {counts : Entries Nat} (h : (Entries.names counts).Pairwise (· < ·)) (name x : String) :
    Entries.get? (countName name counts) x =
      if name = x then some ((Entries.get? counts name).getD 0 + 1) else Entries.get? counts x := by
  induction counts with
  | nil => rfl
  | cons e rest ih =>
    obtain ⟨k, n⟩ := e
    rw [Entries.names_cons, List.pairwise_cons] at h
    rw [countName]
    split
    · -- The list goes on with greater names, so the name is new.
      rename_i hlt
      have hnone : Entries.get? ((k, n) :: rest) name = none := by
        rw [Entries.get?_eq_none_iff, Entries.names_cons, List.mem_cons, not_or]
        exact ⟨String.ne_of_lt hlt, fun hmem => String.lt_irrefl _ (String.lt_trans hlt (h.1 name hmem))⟩
      rw [Entries.get?, hnone]
      rfl
    · split
      · rename_i heq
        subst heq
        simp only [Entries.get?, if_true, Option.getD_some]
        split <;> rfl
      · rename_i hne
        simp only [Entries.get?, ih h.2, if_neg (Ne.symm hne)]
        split
        · rename_i hx
          rw [if_neg fun heq => hne (heq.trans hx.symm)]
        · rfl

theorem sum_values_countName (name : String) (counts : Entries Nat) :
    (Entries.values (countName name counts)).sum = (Entries.values counts).sum + 1 := by
  induction counts with
  | nil => rfl
  | cons e rest ih =>
    simp only [Entries.values] at ih ⊢
    rw [countName]
    split
    · simp [Nat.add_comm]
    · split
      · simp [Nat.add_right_comm]
      · simp [ih, Nat.add_assoc]

namespace Tally
variable {t : Tally} {names : List String}

/-- How often a name has been counted. -/
def count (t : Tally) (x : String) : Nat := (Entries.get? t.counts x).getD 0

theorem nodup_names (t : Tally) : (Entries.names t.counts).Nodup :=
  t.ascending.imp fun h => String.ne_of_lt h

theorem count_of_mem {x : String} {n : Nat} (h : (x, n) ∈ t.counts) : t.count x = n := by
  rw [count, Entries.get?_of_mem t.nodup_names h, Option.getD_some]

theorem count_add (t : Tally) (name x : String) : (t.add name).count x = t.count x + if name = x then 1 else 0 := by
  rw [count, add, get?_countName t.ascending, count]
  split
  · rename_i heq
    rw [heq, Option.getD_some]
  · rfl

theorem addAll_cons (t : Tally) (name : String) (names : List String) :
    t.addAll (name :: names) = (t.add name).addAll names := rfl

theorem addAll_append (t : Tally) (names more : List String) :
    t.addAll (names ++ more) = (t.addAll names).addAll more := List.foldl_append

theorem count_addAll (t : Tally) (names : List String) (x : String) :
    (t.addAll names).count x = t.count x + names.count x := by
  induction names generalizing t with
  | nil => rfl
  | cons name rest ih =>
    rw [addAll_cons, ih, count_add, List.count_cons, Nat.add_assoc, Nat.add_comm (List.count x rest)]
    simp only [beq_iff_eq]

theorem mem_names_addAll {x : String} :
    x ∈ Entries.names (t.addAll names).counts ↔ x ∈ Entries.names t.counts ∨ x ∈ names := by
  induction names generalizing t with
  | nil => simp [addAll]
  | cons name rest ih =>
    rw [addAll_cons, ih, add, names_countName, mem_insertName, List.mem_cons]
    tauto

theorem sum_addAll (t : Tally) (names : List String) :
    (Entries.values (t.addAll names).counts).sum = (Entries.values t.counts).sum + names.length := by
  induction names generalizing t with
  | nil => rfl
  | cons name rest ih =>
    rw [addAll_cons, ih, add, sum_values_countName, List.length_cons, Nat.add_right_comm, Nat.add_assoc]

end Tally
/-! ### The types that functions use -/

namespace Target.Check.TypeUse
open Renderer (outcomes after diagnosed?)
variable {c : Catalog} {f : Function} {table : Function.ParamTable} {name : String} {names : List String}
  {fs : List Function} {tables : List Function.ParamTable}

/-- The types that a function of a catalog uses. -/
def rendering (c : Catalog) (name : String) : Except Error (List String) := c.requireFunction name >>= uses

/-- What is written for a function of a catalog, which is nothing. -/
def written (c : Catalog) (name : String) : Except Error String := (rendering c name).map fun _ => ""

/-- The types that are counted for a function; none, if its parameters cannot be derived. -/
def usesOf (c : Catalog) (name : String) : List String :=
  match rendering c name with
  | .ok used => used
  | .error _ => []

/-- A function adds its types to the tally and writes nothing. -/
theorem determined : renderer.Determined written fun c name t => t.addAll (usesOf c name) := by
  intro name r
  have hrender : renderer.render name = (Gen.catalog >>= fun c => Gen.ofExcept (c.requireFunction name) >>= fun f =>
      Gen.ofExcept (uses f) >>= fun used => Gen.modifyState (fun t => t.addAll used) >>= fun _ => pure "") := rfl
  rw [hrender, Gen.run_noting, ← rendering]
  beta_reduce
  rw [written, usesOf]
  cases rendering r.session.catalog name <;> rfl

theorem foldl_addAll (t : Tally) : names.foldl (fun t name => t.addAll (usesOf c name)) t =
    t.addAll (names.flatMap (usesOf c)) := by
  induction names generalizing t with
  | nil => rfl
  | cons name rest ih => rw [List.foldl_cons, ih, List.flatMap_cons, Tally.addAll_append]

theorem rendering_eq_ok (hf : c.function? name = some f) (htable : f.params = .ok table) :
    rendering c name = .ok ((Entries.values table).map Param.type ++ [f.returnType]) := by
  rw [rendering, Catalog.requireFunction_eq_ok_iff.mpr hf, ok_bind, uses, htable]
  rfl

/-- All uses are those by parameters and those by what is returned. -/
theorem usesOf_perm (hfs : List.Forall₂ (fun name f => c.function? name = some f) names fs)
    (htables : List.Forall₂ (fun (f : Function) table => f.params = .ok table) fs tables) :
    (names.flatMap (usesOf c)).Perm ((tables.flatMap Entries.values).map Param.type ++ fs.map Function.returnType) := by
  induction hfs generalizing tables with
  | nil =>
    cases htables
    exact .nil
  | cons hf _ ih =>
    cases htables with
    | cons htable htables =>
      rw [List.flatMap_cons, usesOf, rendering_eq_ok hf htable, List.flatMap_cons, List.map_append, List.append_assoc,
        List.append_assoc, List.perm_append_left_iff, List.map_cons, List.singleton_append]
      exact ((ih htables).cons _).trans List.perm_middle.symm

/-- Lines for the types that functions with these parameters use: one for each of them, in ascending order, with the
number of its uses. -/
structure Counted (fs : List Function) (tables : List Function.ParamTable) (lines : List (String × Nat)) : Prop where
  ascending : (lines.map (·.1)).Pairwise (· < ·)
  mem_iff : ∀ type, type ∈ lines.map (·.1) ↔
    (∃ table ∈ tables, ∃ p ∈ Entries.values table, p.type = type) ∨ ∃ f ∈ fs, f.returnType = type
  number : ∀ type n, (type, n) ∈ lines →
    n = ((tables.flatMap Entries.values).countP fun p => p.type = type) + fs.countP fun f => f.returnType = type
  sum : (lines.map (·.2)).sum = (tables.flatMap Entries.values).length + fs.length

theorem counted_of_perm {used : List String}
    (h : used.Perm ((tables.flatMap Entries.values).map Param.type ++ fs.map Function.returnType)) :
    Counted fs tables (Tally.empty.addAll used).counts where
  ascending := (Tally.empty.addAll used).ascending
  mem_iff type := by
    have hmem : type ∈ Entries.names (Tally.empty.addAll used).counts ↔ type ∈ used := by
      rw [Tally.mem_names_addAll]
      exact or_iff_right List.not_mem_nil
    rw [← Entries.names, hmem, h.mem_iff, List.mem_append, List.mem_map, List.mem_map]
    refine or_congr_left ?_
    simp only [List.mem_flatMap]
    constructor
    · rintro ⟨p, ⟨table, htable, hp⟩, htype⟩
      exact ⟨table, htable, p, hp, htype⟩
    · rintro ⟨table, htable, p, hp, htype⟩
      exact ⟨p, ⟨table, htable, hp⟩, htype⟩
  number type n hline := by
    have hcount := Tally.count_addAll .empty used type
    rw [Tally.count_of_mem hline, h.count_eq, List.count_append] at hcount
    rw [hcount, List.count_eq_countP, List.count_eq_countP, List.countP_map, List.countP_map]
    exact Nat.zero_add _
  sum := by
    have hsum := Tally.sum_addAll .empty used
    rw [h.length_eq, List.length_append, List.length_map, List.length_map] at hsum
    rw [← Entries.values, hsum]
    exact Nat.zero_add _

/-- Functions of which no rendering fails leave nothing in the text and have no diagnostics. -/
theorem silent_of_written (h : ∀ name ∈ names, written c name = .ok "") :
    String.join ((outcomes written c names).map renderer.shown) = "" ∧
      (outcomes written c names).filterMap diagnosed? = [] := by
  induction names with
  | nil => exact ⟨rfl, rfl⟩
  | cons name rest ih =>
    rw [List.forall_mem_cons] at h
    obtain ⟨hjoin, hdiagnosed⟩ := ih h.2
    rw [outcomes, List.map_cons, ← outcomes, h.1, List.filterMap_cons_none rfl, List.map_cons, Renderer.shown,
      String.join_cons, hjoin]
    exact ⟨rfl, hdiagnosed⟩

theorem exists_run_renderAll {r : Run Tally}
    (h : ∀ name ∈ r.session.generatable.2, written r.session.catalog name = .ok "") :
    ∃ r', renderer.renderAll.run.run r = (.ok "", r') ∧ r'.session.diagnostics = r.session.diagnostics ∧
      r'.state = r.state.addAll (r.session.generatable.2.flatMap (usesOf r.session.catalog)) := by
  obtain ⟨decisions, hrun⟩ := determined.run_renderAll fun name hname => .of_eq_ok (h name hname)
  obtain ⟨hjoin, hdiagnosed⟩ := silent_of_written h
  rw [hjoin] at hrun
  refine ⟨_, hrun, ?_, foldl_addAll _⟩
  rw [after, hdiagnosed, List.append_nil]

/-- In a validated catalog every use by a function that is generated is counted. -/
theorem counted_of_validate {r : Run Tally} (hc : r.session.catalog.validate = .ok ()) (hstart : r.state = .empty) :
    ∃ fs tables lines r', List.Forall₂ (fun name f => r.session.catalog.function? name = some f)
        r.session.generatable.2 fs ∧
      List.Forall₂ (fun (f : Function) table => f.params = .ok table) fs tables ∧ Counted fs tables lines ∧
      target.functions.run.run r = (.ok (String.join (lines.map fun (type, n) => s!"{type} {n}\n")), r') ∧
      r'.session.diagnostics = r.session.diagnostics := by
  have hknown : ∀ name ∈ r.session.generatable.2, ∃ f, r.session.catalog.function? name = some f := by
    intro name hname
    obtain ⟨f, hf, -⟩ := Catalog.exists_requireFunction (r.session.generatable_subset hname)
    exact ⟨f, hf⟩
  obtain ⟨fs, hfs⟩ := exists_forall₂_iff.mpr hknown
  have hderived : ∀ f ∈ fs, ∃ table, f.params = .ok table := by
    intro f hf
    obtain ⟨name, hname⟩ := exists_forall₂_iff.mp ⟨_, hfs.flip⟩ f hf
    exact Catalog.exists_params_of_validate hc hname
  obtain ⟨tables, htables⟩ := exists_forall₂_iff.mpr hderived
  have hwritten : ∀ name ∈ r.session.generatable.2, written r.session.catalog name = .ok "" := by
    intro name hname
    obtain ⟨f, hf⟩ := hknown name hname
    obtain ⟨table, htable⟩ := Catalog.exists_params_of_validate hc hf
    rw [written, rendering_eq_ok hf htable, Except.map]
  obtain ⟨r', hrun, hdiagnostics, hstate⟩ := exists_run_renderAll hwritten
  rw [hstart] at hstate
  have hfunctions : target.functions = (renderer.renderAll >>= fun body => Gen.state >>= fun t =>
      pure (body ++ listing t.counts)) := rfl
  have hblock : target.functions.run.run r = (.ok ("" ++ listing r'.state.counts), r') := by
    rw [hfunctions, Gen.run_bind, hrun]
    rfl
  rw [String.empty_append, hstate] at hblock
  exact ⟨fs, tables, _, r', hfs, htables, counted_of_perm (usesOf_perm hfs htables), hblock, hdiagnostics⟩

/-- Two functions, with three parameters of one type. -/
theorem counted_of_validate_two :
    let c : Catalog := ⟨[("f", { Function.new "f" true with attrs := [("PARAMS", .text "INT a, OUT INT b")] }),
      ("g", { Function.new "g" true with attrs := [("PARAMS", .text "INT n")] })], [], true⟩
    c.validate = .ok () ∧ ∃ fs tables lines, Counted fs tables lines ∧
      String.join (lines.map fun (type, n) => s!"{type} {n}\n") = "ERROR 2\nINT 3\n" := by
  intro c
  let r : Run Tally := ⟨.start c "DebugListTypes" .default, .empty⟩
  have hc : r.session.catalog.validate = .ok () := by decide +kernel
  have htext : (target.functions.run.run r).1 = .ok "ERROR 2\nINT 3\n" := by decide +kernel
  obtain ⟨fs, tables, lines, r', -, -, hcounted, hrun, -⟩ := counted_of_validate hc rfl
  rw [hrun] at htext
  exact ⟨hc, fs, tables, lines, hcounted, Except.ok.inj htext⟩

end Target.Check.TypeUse
end Bindery
