import Bindery.Proofs.Function.Dependencies
import Bindery.Proofs.Signature
import Bindery.Proofs.Template.Tokens

/-! # Placeholders of dependencies

The number of a placeholder counts the dependencies of a parameter from one. Each of them is a parameter of the same
function, and the placeholder stands for what that parameter is called in its own templates
(`Signature.countsDependencies_of_resolve`). This holds of every signature: what a strict function takes for dependencies
and what a lenient one keeps of them is declared. -/

namespace Bindery

namespace Param
variable {p : Param} {n : Nat}

theorem exists_dependency?_iff : (∃ name, p.dependency? n = some name) ↔ 1 ≤ n ∧ n ≤ p.dependencies.length := by
  cases n with
  | zero => simp [dependency?]
  | succ i =>
    rw [dependency?, ← Option.isSome_iff_exists, isSome_getElem?, Nat.lt_iff_add_one_le]
    exact (and_iff_right (Nat.le_add_left 1 i)).symm

theorem mem_of_dependency? {name : String} (h : p.dependency? n = some name) : name ∈ p.dependencies := by
  cases n with
  | zero => cases h
  | succ i => exact List.mem_of_getElem? h

theorem dependency?_ofParam (function : String) (type : Option TypeInfo) (naming : Template.Naming) :
    (Template.Substitution.ofParam function p type naming).dependency? n =
      (p.dependency? n).map fun name => (naming.internal name, naming.interface name) := by
  cases n with
  | zero => rfl
  | succ i => simp [Template.Substitution.dependency?, Template.Substitution.ofParam, dependency?]

end Param

theorem Function.mem_names_of_dependency {f : Function} {table : ParamTable} (h : f.params = .ok table)
    {e : String × Param} (he : e ∈ table) {name : String} (hname : name ∈ e.2.dependencies) :
    name ∈ Entries.names table := by
  obtain ⟨declared, ds, hdeclared, -, -, hnamed⟩ := params_eq_ok_iff.mp h
  obtain ⟨hnames, hlisted⟩ := listed_of_named hdeclared hnamed
  rw [hlisted e he] at hname
  exact hnames ▸ mem_of_mem_listedFor hname

namespace Signature
open Template (Naming Placeholder Substitution)
variable {s : Signature} {c : Catalog} {name : String} {naming : Naming} {p d : TypedParam} {n : Nat}

/-- What the `n`-th dependency of a parameter is: the only parameter of its name, and the placeholders for the dependency
stand for its names. -/
structure CountsTo (s : Signature) (naming : Naming) (p : TypedParam) (n : Nat) (d : TypedParam) : Prop where
  param : d ∈ s.params
  listed : p.param.dependency? n = some d.name
  unique : ∀ q ∈ s.params, q.name = d.name → q = d
  internal : (s.substitution naming p).value? (.internalOf n) = (s.substitution naming d).value? .internalName
  interface : (s.substitution naming p).value? (.interfaceOf n) = (s.substitution naming d).value? .interfaceName
  /-- A text has no numbers of more than 64 bits. -/
  filled : n < UInt64.size →
    s.fill naming p (Placeholder.internalOf n).show = s.fill naming d Placeholder.internalName.show ∧
      s.fill naming p (Placeholder.interfaceOf n).show = s.fill naming d Placeholder.interfaceName.show

/-- Placeholders with a number stand for the dependencies of a parameter, counted from one. -/
structure CountsDependencies (s : Signature) (naming : Naming) (p : TypedParam) : Prop where
  counted : ∀ n, 1 ≤ n → n ≤ p.param.dependencies.length → ∃ d, s.CountsTo naming p n d
  missing : ∀ n, n = 0 ∨ p.param.dependencies.length < n →
    ∀ placeholder ∈ [Placeholder.internalOf n, Placeholder.interfaceOf n],
      s.fill naming p placeholder.show =
        .error (.unresolvedPlaceholder s.name p.name p.param.type placeholder.show)

theorem exists_param_of_dependency (h : resolve c name = .ok s) (hp : p ∈ s.params) {dependency : String}
    (hdependency : dependency ∈ p.param.dependencies) : ∃ d ∈ s.params, d.name = dependency := by
  obtain ⟨f, -, hs⟩ := resolve_eq_ok_iff.mp h
  obtain ⟨table, order, htable, -, rfl, hparams, -⟩ := ofFunction_eq_ok hs
  have hvalue : p.param ∈ Entries.values table := hparams ▸ List.mem_map_of_mem hp
  obtain ⟨e, he, heq⟩ := List.mem_map.mp hvalue
  have hmem := Function.mem_names_of_dependency htable he (heq ▸ hdependency)
  rw [(Function.declares_of_params htable).2, ← hparams, List.map_map] at hmem
  exact List.mem_map.mp hmem

theorem fill_show {placeholder : Placeholder} {v : String} (hfits : placeholder.Fits)
    (hvalue : (s.substitution naming p).value? placeholder = some v) : s.fill naming p placeholder.show = .ok v :=
  Substitution.fill_of_parse? (Placeholder.parse?_show_iff.mpr ⟨rfl, hfits⟩) hvalue

theorem value?_dependency (s : Signature) (naming : Naming) (h : p.param.dependency? n = some name) :
    (s.substitution naming p).value? (.internalOf n) = some (naming.internal name) ∧
      (s.substitution naming p).value? (.interfaceOf n) = some (naming.interface name) := by
  simp [substitution, Substitution.value?, Param.dependency?_ofParam, h]

theorem countsTo_of_dependency? (harranged : s.Arranged) (hd : d ∈ s.params)
    (h : p.param.dependency? n = some d.name) : s.CountsTo naming p n d := by
  obtain ⟨hinternal, hinterface⟩ := value?_dependency s naming h
  refine ⟨hd, h, fun q hq heq => ?_, hinternal, hinterface, fun hn => ?_⟩
  · exact List.inj_on_of_nodup_map harranged.nodup_params hq hd heq
  · have hbounded : (Placeholder.internalOf n).Fits ∧ (Placeholder.interfaceOf n).Fits := by
      simpa [Placeholder.Fits, Placeholder.number?] using hn
    have hnames : Placeholder.internalName.Fits ∧ Placeholder.interfaceName.Fits := by
      simp [Placeholder.Fits, Placeholder.number?]
    rw [fill_show hbounded.1 hinternal, fill_show hbounded.2 hinterface, fill_show hnames.1 rfl, fill_show hnames.2 rfl]
    exact ⟨rfl, rfl⟩

/-- In every signature the placeholders with a number stand for the dependencies of a parameter, and each of these is a
parameter. -/
theorem countsDependencies_of_resolve (h : resolve c name = .ok s) (naming : Naming) :
    ∀ p ∈ s.params, s.CountsDependencies naming p := by
  obtain ⟨f, -, hs⟩ := resolve_eq_ok_iff.mp h
  have harranged := arranged_of_ofFunction hs
  intro p hp
  refine ⟨fun n hpos hlength => ?_, fun n hn placeholder hplaceholder => ?_⟩
  · obtain ⟨dependency, hdependency⟩ := Param.exists_dependency?_iff.mpr ⟨hpos, hlength⟩
    obtain ⟨d, hd, rfl⟩ := exists_param_of_dependency h hp (Param.mem_of_dependency? hdependency)
    exact ⟨d, countsTo_of_dependency? harranged hd hdependency⟩
  · have hnone : p.param.dependency? n = none := by
      rw [← Option.not_isSome_iff_eq_none, Option.isSome_iff_exists, Param.exists_dependency?_iff]
      omega
    have hvalue : (s.substitution naming p).value? placeholder = none := by
      simp only [List.mem_cons, List.not_mem_nil, or_false] at hplaceholder
      rcases hplaceholder with rfl | rfl <;>
        simp [substitution, Substitution.value?, Param.dependency?_ofParam, hnone]
    exact Substitution.fill_show_of_none hvalue

/-- A lenient catalog with one function `f`, in which `w` depends on `b`, on something that is no parameter and on `a`. -/
def lenientCatalog : Catalog where
  functions := [("f", ⟨"f", [("PARAMS", .text "INT a, OUT INT b, INT w"), ("DEPS", .text "w ON b, w ON z a")], "INT", .empty,
    .empty, false⟩)]
  types := [("INT", .new "INT")]
  strict := false

theorem countsDependencies_of_resolve_lenient :
    ∃ s, resolve lenientCatalog "f" = .ok s ∧
      s.params.map (·.param.dependencies) = [[], [], ["b", "a"]] ∧ ∀ p ∈ s.params, s.CountsDependencies .declared p := by
  have hresolve : (resolve lenientCatalog "f").map (fun s => s.params.map (·.param.dependencies)) =
      .ok [[], [], ["b", "a"]] := by decide +kernel
  obtain ⟨s, hs, hdependencies⟩ := map_eq_ok_iff.mp hresolve
  exact ⟨s, hs, hdependencies, countsDependencies_of_resolve hs .declared⟩

end Signature
end Bindery
