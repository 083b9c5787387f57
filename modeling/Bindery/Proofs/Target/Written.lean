import Bindery.Proofs.Target.Parts
import Bindery.Proofs.Text.Contains

/-! # What is written of the parts

Where the parts of a rendered function stand in its text: the heads and the calls, with what is written before and
after them, and the lines of conversions. -/

namespace Bindery.Target
variable {s : Signature} {text : String}

theorem marginedLines_eq_intercalate (lines : List String) :
    marginedLines lines = "\n".intercalate (lines.map ("  " ++ ·)) := Text.joinWith_eq_intercalate ..

/-! ### R -/

namespace R.Wrapper

/-- Lines in two spaces each, with their line ends. -/
theorem block_eq_join (lines : List String) : block lines = String.join (lines.map fun line => "  " ++ line ++ "\n") := by
  rw [block, margined, Text.prefixed, List.map_map]
  rfl

/-- The conversions of the outputs follow the call. -/
theorem Parts.contains_call (x : Parts) (s : Signature) :
    Text.contains ("  # Function call\n" ++ ("  res <- .Call(C_R_" ++ s.name ++ ", " ++ ", ".intercalate x.call ++ ")\n") ++
      String.join (x.outputs.map fun line => "  " ++ line ++ "\n")) (x.layout s) := by
  rw [← Text.commaJoin_eq_intercalate, ← block_eq_join]
  exact Text.contains_append_right _ <| Text.contains_append_right _ <|
    Text.contains_append_three _ "  # Function call\n" (callLine s.name x.call) (block x.outputs)

end R.Wrapper

namespace R.Glue
open Template (Skeleton)
variable {x : Parts}

theorem Parts.contains_head (h : skeleton.fill (x.fields s) = .ok text) :
    Text.contains (" /\n/-------------------------------------------*/\n" ++
      ("SEXP R_" ++ s.name ++ "(" ++ ", ".intercalate x.formals ++ ")") ++
      " \x7b\n                                        /* Declarations */\n") text := by
  rw [← Text.commaJoin_eq_intercalate]
  exact Skeleton.contains_of_framed h ⟨skeleton.take 2, skeleton.drop 5, rfl⟩ rfl

theorem Parts.contains_call (h : skeleton.fill (x.fields s) = .ok text) :
    Text.contains (s.name ++ "(" ++ ", ".intercalate x.call ++ ");" ++
      "\n                                        /* Convert output */\n") text := by
  rw [← Text.commaJoin_eq_intercalate]
  exact Text.contains_trans (Text.contains_call_end ..)
    (Skeleton.contains_of_followed h ⟨skeleton.take 9, skeleton.drop 11, rfl⟩ rfl)

/-- The conversions of the outputs, and what puts the result together, come before its return. -/
theorem Parts.contains_outputs (h : skeleton.fill (x.fields s) = .ok text) :
    Text.contains ("\n                                        /* Convert output */\n" ++
      "\n".intercalate (x.outputs.map ("  " ++ ·)) ++ "\n\n  UNPROTECT(1);\n  return(result);\n\x7d\n") text := by
  rw [← marginedLines_eq_intercalate]
  exact Skeleton.contains_of_framed h ⟨skeleton.take 10, [], rfl⟩ rfl

end R.Glue

/-! ### Java -/

namespace Java.Glue
open Template (Skeleton)
variable {x : Parts}

theorem Parts.contains_head (h : skeleton.fill (x.fields s) = .ok text) :
    Text.contains (" /\n/-------------------------------------------*/\n" ++ header x.method ++
      " \x7b\n                                        /* Declarations */\n") text :=
  Skeleton.contains_of_framed h ⟨skeleton.take 2, skeleton.drop 5, rfl⟩ rfl

theorem Parts.contains_call (h : skeleton.fill (x.fields s) = .ok text) :
    Text.contains (s.name ++ "(" ++ ", ".intercalate x.call ++ ");\n" ++ "  \x7d") text := by
  rw [← Text.commaJoin_eq_intercalate]
  refine Text.contains_trans ?_ (Skeleton.contains_of_hole "call" h (by decide) rfl)
  exact Text.contains_call_end ..

end Java.Glue

/-! ### Python -/

namespace Python

theorem Library.contains_layout (function result : String) (args : List String) :
    Text.contains (function ++ ".argtypes = [" ++ ", ".intercalate args ++ "]\n")
      (Library.layout function result args) := by
  rw [← Text.commaJoin_eq_intercalate]
  exact Text.contains_append_left _ (Text.contains_self _)

theorem Wrapper.Parts.contains_call (x : Wrapper.Parts) (s : Signature) :
    Text.contains (s.name ++ "(" ++ ", ".intercalate (Wrapper.callArguments s) ++ ")" ++ "\n") (x.layout s) := by
  rw [← Text.commaJoin_eq_intercalate]
  have hcall : Text.contains (s.name ++ "(" ++ Text.commaJoin (Wrapper.callArguments s) ++ ")" ++ "\n")
      ("    " ++ Wrapper.callLine s ++ "\n") := by
    rw [Wrapper.callLine]
    split
    · exact Text.contains_line_end "    " "c__result = " _ "\n"
    · have hend := Text.contains_append_left "    " (Text.contains_self
        (s.name ++ "(" ++ Text.commaJoin (Wrapper.callArguments s) ++ ")" ++ "\n"))
      rwa [← String.append_assoc] at hend
  have hline : "    " ++ Wrapper.callLine s ∈
      x.front s ++ Wrapper.body ["# Call wrapped function", Wrapper.callLine s] ++ x.back s := by
    simp [Wrapper.body, Text.prefixed]
  have hlayout := Text.contains_append_left "\n" (Text.contains_joinWith_append "\n" hline)
  rw [← String.append_assoc] at hlayout
  exact Text.contains_trans hcall hlayout

end Python

/-! ### The shell -/

namespace Shell.Program
open Template (Skeleton)
variable {x : Parts}

theorem Parts.contains_call (h : skeleton.fill (x.fields s) = .ok text) :
    Text.contains (s.name ++ "(" ++ ", ".intercalate x.call ++ ");" ++ "\n\n  /* Write the result */\n") text := by
  rw [← Text.commaJoin_eq_intercalate]
  exact Text.contains_trans (Text.contains_call_end ..)
    (Skeleton.contains_of_followed h ⟨skeleton.take 25, skeleton.drop 27, rfl⟩ rfl)

end Shell.Program
end Bindery.Target
