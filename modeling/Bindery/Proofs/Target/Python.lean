import Bindery.Proofs.Target.CallOrder
import Bindery.Proofs.Text.Contains

/-! # Calls from Python

One target declares the library to Python, with the types of the arguments of every function, and another writes the
functions that call it. The declaration leaves out a parameter whose template for the call or whose type of C is empty;
the call passes them all. So there is an argument too many for each parameter that is left out, and the two fit exactly
if none is (`Agree`). -/

namespace Bindery.Target.Python

variable {s : Signature} {types args : List String}

/-- Whether the declaration leaves a parameter out. -/
def leavesOut (p : TypedParam) : Bool := !CallSite.pythonTypes.takes p

/-- The declared types and the arguments of the call are those of the same parameters, place by place. -/
def Fits (s : Signature) (types args : List String) : Prop :=
  ∃ ps : List TypedParam, List.Forall₂ (fun p type => CallSite.pythonTypes.Gives s p type) ps types ∧
    List.Forall₂ (fun p arg => CallSite.pythonCall.Gives s p arg) ps args

/-- A declaration of a function and a call of it, in texts that two targets have written. -/
structure Agree (s : Signature) (types args : List String) (declaration call : String) : Prop where
  declares : ∃ result, declaration = Library.layout s.name result types
  argtypes : Text.contains (s.name ++ ".argtypes = [" ++ ", ".intercalate types ++ "]\n") declaration
  calls : Text.contains s!"{s.name}({Text.commaJoin args})" call
  declared : CallSite.pythonTypes.Follows s types
  passed : CallSite.pythonCall.Follows s args
  surplus : args.length = types.length + (s.params.filter leavesOut).length
  fits_iff : Fits s types args ↔ ∀ p ∈ s.params, ¬leavesOut p

/-- The call passes every parameter. -/
theorem forall₂_passed (h : CallSite.pythonCall.Follows s args) :
    List.Forall₂ (fun p arg => CallSite.pythonCall.Gives s p arg) s.params args := by
  have hall : s.params.filter (fun p => CallSite.pythonCall.takes p) = s.params := List.filter_true _
  rwa [CallSite.Follows, hall] at h

theorem surplus_of_follows (htypes : CallSite.pythonTypes.Follows s types)
    (hargs : CallSite.pythonCall.Follows s args) : args.length = types.length + (s.params.filter leavesOut).length := by
  rw [← (forall₂_passed hargs).length_eq, ← htypes.length_eq]
  exact List.length_eq_length_filter_add _

theorem fits_iff_of_follows (htypes : CallSite.pythonTypes.Follows s types)
    (hargs : CallSite.pythonCall.Follows s args) : Fits s types args ↔ ∀ p ∈ s.params, ¬leavesOut p := by
  constructor
  · -- As many types as arguments leave no room for a parameter that is left out.
    rintro ⟨ps, hps, hps'⟩
    have hsurplus := surplus_of_follows htypes hargs
    rw [← hps.length_eq, ← hps'.length_eq, Nat.left_eq_add, List.length_eq_zero_iff, List.filter_eq_nil_iff] at hsurplus
    exact hsurplus
  · intro hnone
    have hall : s.params.filter (fun p => CallSite.pythonTypes.takes p) = s.params :=
      List.filter_eq_self.mpr fun p hp => by simpa [leavesOut] using hnone p hp
    exact ⟨s.params, hall ▸ htypes, forall₂_passed hargs⟩

/-- A text that shows the arguments of a call contains the call. -/
theorem contains_call {text : String} (h : CallSite.pythonCall.Shows s args text) :
    Text.contains s!"{s.name}({Text.commaJoin args})" text := by
  rw [Text.commaJoin_eq_intercalate]
  exact Text.contains_trans (Text.contains_append_right "\n" (Text.contains_self _)) h.placed

/-- What the two targets write for a function of one catalog. -/
theorem agree_of_texts {files : Files} {docFolder? : Option String} {g₁ g₂ : Generator}
    (hg₁ : Generator.ofName? files docFolder? "PythonCTypes" = some g₁)
    (hg₂ : Generator.ofName? files docFolder? "PythonCTypesTypedWrapper" = some g₂)
    {r₁ : Run g₁.State} {r₂ : Run g₂.State}
    (hcatalog : r₂.session.catalog = r₁.session.catalog) {name declaration call : String}
    (h₁ : ((g₁.target.render name).run.run r₁).1 = .ok declaration)
    (h₂ : ((g₂.target.render name).run.run r₂).1 = .ok call) :
    ∃ s types args, Signature.resolve r₁.session.catalog name = .ok s ∧ Agree s types args declaration call := by
  obtain ⟨s, types, hs, htypes, hdeclares⟩ := CallSite.pythonTypes.shows_of_render hg₁ h₁
  obtain ⟨s', args, hs', hargs, hcalls⟩ := CallSite.pythonCall.shows_of_render hg₂ h₂
  rw [hcatalog] at hs'
  cases hs.symm.trans hs'
  have hdeclared := CallSite.pythonTypes.follows_of_arguments htypes
  have hpassed := CallSite.pythonCall.follows_of_arguments hargs
  exact ⟨s, types, _, hs, hdeclares.laid, hdeclares.placed, contains_call hcalls, hdeclared, hpassed,
    surplus_of_follows hdeclared hpassed, fits_iff_of_follows hdeclared hpassed⟩

/-- A catalog of one function `f` with these parameters, and a type that Python passes on and one that it does not. -/
def catalogOf (params : String) : Catalog :=
  { Signature.catalogOf params "..." with
    types := [("INT", ⟨"INT", [("CTYPE", .text "int"), ("PY_TYPE", .text "int")], .empty⟩),
      ("SKIP", ⟨"SKIP", [("CTYPE", .text "int"), ("PY_TYPE", .text "int"), ("CALL", .text "")], .empty⟩)] }

/-- Both parameters are declared, and the call passes both. -/
theorem agree_of_texts_two :
    let declaration := "\nf = _lib.f\nf.restype = c_int\nf.argtypes = [c_int, c_int]\n"
    let call := "\n\ndef f(a: int, b: int) -> int:\n    \"\"\"Type-annotated wrapper for ``f``.\"\"\"\n" ++
      "    # Prepare input arguments\n    c_a = a\n    c_b = b\n\n    # Call wrapped function\n" ++
      "    c__result = f(c_a, c_b)\n\n    # Construct return value\n    return c__result\n"
    ∃ s types args, Agree s types args declaration call ∧ s.params.length = 2 ∧ Fits s types args := by
  intro declaration call
  let r₁ : Run Library.Aliases := ⟨.start (catalogOf "INT a, INT b") "PythonCTypes" .default, .empty⟩
  let r₂ : Run Unit := ⟨.start (catalogOf "INT a, INT b") "PythonCTypesTypedWrapper" .default, ()⟩
  have hg₁ : Generator.ofName? .empty none "PythonCTypes" = some ⟨_, .empty, Library.target⟩ := rfl
  have hg₂ : Generator.ofName? .empty none "PythonCTypesTypedWrapper" = some (.stateless Wrapper.target) := rfl
  have h₁ : ((Library.target.render "f").run.run r₁).1 = .ok declaration := by decide +kernel
  have h₂ : ((Wrapper.target.render "f").run.run r₂).1 = .ok call := by decide +kernel
  have hresolve : (Signature.resolve r₁.session.catalog "f").map (fun s =>
      (s.params.length, s.params.all fun p => !leavesOut p)) = .ok (2, true) := by decide +kernel
  obtain ⟨s, types, args, hs, hagree⟩ := @agree_of_texts _ _ _ _ hg₁ hg₂ r₁ r₂ rfl _ _ _ h₁ h₂
  rw [hs, Except.map, Except.ok.injEq, Prod.mk.injEq, List.all_eq_true] at hresolve
  exact ⟨s, types, args, hagree, hresolve.1, hagree.fits_iff.mpr (by simpa using hresolve.2)⟩

/-- One argument is declared, and the call passes two. -/
theorem call_passes_undeclared :
    ((Library.target.render "f").run.run ⟨.start (catalogOf "SKIP a, INT b") "PythonCTypes" .default, .empty⟩).1 =
        .ok "\nf = _lib.f\nf.restype = c_int\nf.argtypes = [c_int]\n" ∧
      ((Wrapper.target.render "f").run.run
        ⟨.start (catalogOf "SKIP a, INT b") "PythonCTypesTypedWrapper" .default, ()⟩).1 =
        .ok ("\n\ndef f(a: int, b: int) -> int:\n    \"\"\"Type-annotated wrapper for ``f``.\"\"\"\n" ++
          "    # Prepare input arguments\n    c_a = a\n    c_b = b\n\n    # Call wrapped function\n" ++
          "    c__result = f(c_a, c_b)\n\n    # Construct return value\n    return c__result\n") := by
  constructor <;> decide +kernel

end Bindery.Target.Python
