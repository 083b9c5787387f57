import Bindery.Proofs.Target.PerFunction
import Bindery.Target.Check.Prototype
import Bindery.Target.Java.Class
import Bindery.Target.Java.Glue
import Bindery.Target.Python.Library
import Bindery.Target.Python.Wrapper
import Bindery.Target.R.Glue
import Bindery.Target.R.Wrapper
import Bindery.Target.Shell.Program

/-! # Renderings fail for one function only

For every target: the text of a function with a signature fails, if at all, for a reason that concerns the
function alone. What a rendering calls is followed in the order of its definitions. -/

namespace Bindery.Target
open Template (Skeleton Substitution)

/-! ### R -/

namespace R.Glue
variable (s : Signature)

theorem header_perFunction : PerFunction (header s) :=
  ((s.fillAll_perFunction _ _ _).map _).map _

theorem declaration_perFunction (p : TypedParam) : PerFunction (declaration s p) :=
  (s.facet?_perFunction _ _ p).map _

theorem returnDeclaration_perFunction : PerFunction (returnDeclaration s) := by
  unfold returnDeclaration
  split
  · exact Substitution.line_perFunction _ _
  · exact .ok _
  · exact .ok []

theorem declarations_perFunction : PerFunction (declarations s) :=
  (PerFunction.mapM (declaration_perFunction s)).bind fun _ => (returnDeclaration_perFunction s).bind fun _ => .ok _

theorem call_perFunction : PerFunction (call s) := (s.fillAll_perFunction _ _ _).map _

theorem outputConversions_perFunction : PerFunction (outputConversions s) := by
  refine (s.facets_perFunction _ _ _).bind fun conversions => ?_
  split
  · split
    · exact .ok _
    · exact (Substitution.fill_perFunction _ _).bind fun _ => .ok _
  · exact .ok _
  · exact .ok _

theorem holes_skeleton : skeleton.holes ⊆ ["banner", "header", "decl", "inconv", "call", "outconv"] := by decide

theorem render_perFunction : PerFunction (render s) :=
  (header_perFunction s).bind fun _ => (declarations_perFunction s).bind fun _ =>
    (s.facets_perFunction _ _ _).bind fun _ => (call_perFunction s).bind fun _ =>
      (outputConversions_perFunction s).bind fun _ => Skeleton.fill_perFunction holes_skeleton

end R.Glue

namespace R.Wrapper
variable (s : Signature)

theorem argument_perFunction (p : TypedParam) : PerFunction (argument s p) := by
  simp only [argument]
  split
  · exact .ok _
  · exact s.fill_perFunction _ p _

theorem arguments_perFunction : PerFunction (arguments s) :=
  (PerFunction.mapM (argument_perFunction s)).bind fun _ => .ok _

theorem outputConversion?_perFunction (p : TypedParam) : PerFunction (outputConversion? s p) := by
  unfold outputConversion?
  split
  · exact .ok none
  · exact (Substitution.fill_perFunction _ _).map _

theorem returnConversion_perFunction : PerFunction (returnConversion s) := by
  unfold returnConversion
  split
  · exact Substitution.line_perFunction _ _
  · exact .ok []

theorem outputConversions_perFunction : PerFunction (outputConversions s) :=
  (PerFunction.mapM (outputConversion?_perFunction s)).bind fun _ => (returnConversion_perFunction s).bind fun _ => .ok _

theorem render_perFunction : PerFunction (render s) :=
  (arguments_perFunction s).bind fun _ => (s.facets_perFunction _ _ _).bind fun _ =>
    (s.fillAll_perFunction _ _ _).bind fun _ => (outputConversions_perFunction s).bind fun _ => .ok _

end R.Wrapper

/-! ### Java -/

namespace Java
variable (s : Signature)

theorem requireType_perFunction (function : String) (t : TypeInfo) : PerFunction (requireType function t) := by
  unfold requireType
  split
  · exact .ok _
  · exact .error rfl

theorem Method.returnedAmong_perFunction (ps : List TypedParam) : PerFunction (returnedAmong s ps) := by
  induction ps with
  | nil => exact .ok []
  | cons p ps ih =>
    rw [returnedAmong]
    split
    · exact ih.map _
    · split
      · exact ih
      · exact .error rfl

theorem Method.returnedOutput?_perFunction : PerFunction (returnedOutput? s) := by
  refine (returnedAmong_perFunction s _).bind fun outputs => ?_
  split
  · exact .ok none
  · exact .ok _
  · exact .error rfl

theorem Method.resultType?_perFunction (returned? : Option TypedParam) : PerFunction (resultType? s returned?) := by
  cases returned? with
  | none => exact .ok _
  | some p => exact (requireType_perFunction s.name p.type).map _

theorem Method.ofSignature_perFunction : PerFunction (ofSignature s) :=
  (returnedOutput?_perFunction s).bind fun _ =>
    (PerFunction.mapM fun p : TypedParam => (requireType_perFunction s.name p.type).map _).bind fun _ =>
      (resultType?_perFunction s _).bind fun _ => .ok _

theorem Class.render_perFunction : PerFunction (Class.render s) := (Method.ofSignature_perFunction s).map _

end Java

namespace Java.Glue
variable (s : Signature) (m : Method)

theorem declaration_perFunction (p : TypedParam) : PerFunction (declaration s p) :=
  (s.facet?_perFunction _ _ p).map _

theorem declarations_perFunction : PerFunction (declarations s m) :=
  (PerFunction.mapM (declaration_perFunction s)).bind fun _ => .ok _

theorem call_perFunction : PerFunction (call s) := (s.fillAll_perFunction _ _ _).map _

theorem returnConversion_perFunction : PerFunction (returnConversion s) := by
  unfold returnConversion
  split
  · exact .ok []
  · exact Substitution.line_perFunction _ _

theorem outputConversions_perFunction : PerFunction (outputConversions s m) := by
  refine (s.facets_perFunction _ _ _).bind fun conversions => ?_
  split
  · exact .ok _
  · exact (returnConversion_perFunction s).bind fun _ => .ok _

theorem holes_skeleton : skeleton.holes ⊆ ["banner", "header", "decl", "inconv", "call", "outconv", "ret"] := by
  decide

theorem render_perFunction : PerFunction (render s) :=
  (Method.ofSignature_perFunction s).bind fun m => (declarations_perFunction s m).bind fun _ =>
    (s.facets_perFunction _ _ _).bind fun _ => (call_perFunction s).bind fun _ =>
      (outputConversions_perFunction s m).bind fun _ => Skeleton.fill_perFunction holes_skeleton

end Java.Glue

/-! ### Python -/

namespace Python
variable (s : Signature)

theorem argumentCType?_perFunction (function : String) (p : TypedParam) :
    PerFunction (argumentCType? function p) := by
  simp only [argumentCType?]
  split
  · exact .ok none
  · split
    · exact .error rfl
    · split
      · exact .ok none
      · split <;> exact .ok _

theorem Library.resultType_perFunction : PerFunction (Library.resultType s) := by
  simp only [Library.resultType]
  split
  · exact .ok _
  · exact .error rfl

theorem Library.argumentTypes_perFunction : PerFunction (Library.argumentTypes s) :=
  (PerFunction.mapM fun p => (argumentCType?_perFunction s.name p).map _).map _

theorem Library.render_perFunction : PerFunction (Library.render s) :=
  (resultType_perFunction s).bind fun _ => (argumentTypes_perFunction s).bind fun _ => .ok _

end Python

namespace Python.Wrapper
variable (s : Signature)

theorem requireType_perFunction (function : String) (t : TypeInfo) : PerFunction (requireType function t) := by
  unfold requireType
  split
  · exact .ok _
  · exact .error rfl

theorem parameterTexts_perFunction (defaulted : Bool) (ps : List TypedParam) :
    PerFunction (parameterTexts s defaulted ps) := by
  induction ps generalizing defaulted with
  | nil => exact .ok []
  | cons p ps ih =>
    rw [parameterTexts]
    refine (requireType_perFunction s.name p.type).bind fun type => ?_
    split
    · exact (ih true).bind fun _ => .ok _
    · split
      · exact .error rfl
      · exact (ih false).bind fun _ => .ok _

theorem inputLine?_perFunction (p : TypedParam) : PerFunction (inputLine? s p) := by
  simp only [inputLine?]
  split
  · exact (s.fill_perFunction _ p _).map _
  · split
    · exact .ok none
    · exact .error rfl

theorem inputLines_perFunction : PerFunction (inputLines s) := (PerFunction.mapM (inputLine?_perFunction s)).map _

theorem render_perFunction : PerFunction (render s) :=
  (PerFunction.mapM fun p : TypedParam => requireType_perFunction s.name p.type).bind fun _ =>
    (PerFunction.mapM (requireType_perFunction s.name)).bind fun _ =>
      (parameterTexts_perFunction s false _).bind fun _ => (inputLines_perFunction s).bind fun _ =>
        (s.fillAll_perFunction _ _ _).bind fun _ => .ok _

end Python.Wrapper

/-! ### The shell -/

namespace Shell.Program
variable (s : Signature)

theorem declaration_perFunction (p : TypedParam) : PerFunction (declaration s p) := by
  unfold declaration
  split
  · exact s.fill_perFunction _ p _
  · exact .ok _

theorem declarationLine?_perFunction (p : TypedParam) : PerFunction (declarationLine? s p) :=
  (declaration_perFunction s p).map _

theorem returnDeclaration_perFunction : PerFunction (returnDeclaration s) := by
  unfold returnDeclaration
  split
  · exact Substitution.line_perFunction _ _
  · exact .ok _
  · exact .ok []

theorem declarations_perFunction : PerFunction (declarations s) :=
  (PerFunction.mapM (declarationLine?_perFunction s)).bind fun _ => (returnDeclaration_perFunction s).bind fun _ => .ok _

theorem conversion_perFunction (c : Choice) : PerFunction (conversion s c) := by
  unfold conversion
  split
  · exact s.fill_perFunction _ c.param _
  · exact .ok ""

theorem inputText_perFunction (cs : List Choice) : PerFunction (inputText s cs) :=
  (PerFunction.mapM (conversion_perFunction s)).bind fun _ => .ok _

theorem call_perFunction : PerFunction (call s) := (PerFunction.mapM fun p => s.fill_perFunction _ p _).map _

theorem returnConversion_perFunction : PerFunction (returnConversion s) := by
  unfold returnConversion
  split
  · exact .ok []
  · exact Substitution.line_perFunction _ _

theorem outputConversions_perFunction : PerFunction (outputConversions s) :=
  (s.facets_perFunction _ _ _).bind fun _ => (returnConversion_perFunction s).bind fun _ => .ok _

theorem holes_skeleton :
    skeleton.holes ⊆
      ["func", "banner", "usage", "decl", "nargs", "args", "default", "inconv", "call", "outconv"] := by
  decide

theorem render_perFunction : PerFunction (render s) :=
  (declarations_perFunction s).bind fun _ => (inputText_perFunction s _).bind fun _ =>
    (call_perFunction s).bind fun _ => (outputConversions_perFunction s).bind fun _ =>
      Skeleton.fill_perFunction holes_skeleton

end Shell.Program

/-! ### Checks -/

namespace Check.Prototype

theorem render_perFunction {types : Entries TypeInfo} {f : Function} {table : Function.ParamTable}
    (hparams : f.params = .ok table) : PerFunction (render types f) := by
  have hargument : ∀ p, PerFunction (argument types f.name p) := fun p =>
    (Catalog.resolveType_perFunction types f.name p.type).map _
  exact (Catalog.resolveType_perFunction types f.name f.returnType).bind fun _ =>
    (PerFunction.of_eq_ok hparams).bind fun _ => (PerFunction.mapM hargument).bind fun _ => .ok _

theorem holes_skeleton : skeleton.holes ⊆ ["checks"] := by decide

theorem exists_fill_eq_ok (checks : String) : ∃ text, skeleton.fill [("checks", checks)] = .ok text :=
  Skeleton.exists_fill_eq_ok holes_skeleton

end Check.Prototype

end Bindery.Target
