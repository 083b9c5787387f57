import Bindery.Proofs.Catalog.Loads
import Bindery.Proofs.Text.Contains
import Bindery.Proofs.Text.Pieces
import Bindery.Target.Named

/-! # Comments stay comments

A function that could not be rendered leaves a comment on its failure, and the rest of the output must be read as if
nothing stood there. The text of a failure quotes names of the specification, which may hold anything. A comment between
delimiters is not closed by its text: `*/` is taken apart there, and nothing new closes it (`closing_not_infix_replaced`).
A comment of one line is not left by its text where the line feeds are taken out; four targets keep them. -/

namespace Bindery.Target

/-- How a language writes comments. -/
inductive CommentForm where
  /-- From a leader to the end of the line. -/
  | line (leader : String)
  /-- Between the delimiters of C. -/
  | enclosed
deriving Repr, DecidableEq

/-- A line with nothing in it, or with nothing but indentation in front of a leader. -/
def IsCommentLine (leader line : String) : Prop :=
  Text.isBlankText line = true ∨ leader.toList <+: line.toList.dropWhile Text.isIndent

/-- All of a text is comment. One between delimiters is closed once, where it ends. -/
def CommentForm.IsComment : CommentForm → String → Prop
  | .line leader, text => ∀ line ∈ Text.split '\n' text, IsCommentLine leader line
  | .enclosed, text => (∃ inside, text = "/*" ++ inside ++ "*/\n") ∧
      ∀ before after, text = before ++ "*/" ++ after → after = "\n"

instance (leader line : String) : Decidable (IsCommentLine leader line) :=
  inferInstanceAs (Decidable (_ ∨ leader.toList <+: line.toList.dropWhile Text.isIndent))

instance (leader text : String) : Decidable ((CommentForm.line leader).IsComment text) :=
  inferInstanceAs (Decidable (∀ line ∈ Text.split '\n' text, IsCommentLine leader line))

/-! ### Comments in lines -/

/-- A text that puts what follows it behind a leader. -/
def Leads (leader front : String) : Prop :=
  leader ≠ "" ∧ '\n' ∉ front.toList ∧ leader.toList <+: front.toList.dropWhile Text.isIndent

instance (leader front : String) : Decidable (Leads leader front) :=
  inferInstanceAs (Decidable (_ ∧ _ ∧ leader.toList <+: front.toList.dropWhile Text.isIndent))

section
variable {leader front : String}

theorem isComment_append_feed_append (leader a b : String) :
    (CommentForm.line leader).IsComment (a ++ "\n" ++ b) ↔
      (CommentForm.line leader).IsComment a ∧ (CommentForm.line leader).IsComment b := by
  have hsplit : Text.split '\n' (a ++ "\n" ++ b) = Text.split '\n' a ++ Text.split '\n' b := by
    have hcut := Text.splitWhere_append_cons (p := (· == '\n')) (beq_self_eq_true '\n') a.toList b.toList
    rw [Text.split, Text.split, Text.split, ← List.map_append, ← hcut, String.append_assoc, String.toList_append,
      String.toList_append]
    rfl
  simp only [CommentForm.IsComment, hsplit, List.forall_mem_append]

theorem isComment_empty (leader : String) : (CommentForm.line leader).IsComment "" :=
  List.forall_mem_singleton.mpr (Or.inl rfl)

theorem isComment_append_feed (a : String) :
    (CommentForm.line leader).IsComment (a ++ "\n") ↔ (CommentForm.line leader).IsComment a := by
  have h := isComment_append_feed_append leader a ""
  rwa [String.append_empty, and_iff_left (isComment_empty leader)] at h

theorem isComment_feed_append (b : String) :
    (CommentForm.line leader).IsComment ("\n" ++ b) ↔ (CommentForm.line leader).IsComment b := by
  have h := isComment_append_feed_append leader "" b
  rwa [String.empty_append, and_iff_right (isComment_empty leader)] at h

/-- A leader comes before the first line of a text only. -/
theorem isComment_append_iff (h : Leads leader front) (text : String) :
    (CommentForm.line leader).IsComment (front ++ text) ↔
      ∀ line ∈ (Text.split '\n' text).tail, IsCommentLine leader line := by
  obtain ⟨hne, hfront, hleader⟩ := h
  obtain ⟨q, qs, hqs⟩ := List.exists_cons_of_ne_nil (Text.splitWhere_ne_nil (· == '\n') text.toList)
  have hfirst : IsCommentLine leader (String.ofList (front.toList ++ q)) := by
    right
    rw [String.toList_ofList, List.dropWhile_append]
    split
    · rename_i hempty
      rw [List.isEmpty_iff.mp hempty, List.prefix_nil] at hleader
      exact absurd (String.toList_inj.mp hleader) hne
    · exact hleader.trans (List.prefix_append ..)
  have hnone : ∀ c ∈ front.toList, (c == '\n') = false := by
    intro c hc
    rw [beq_eq_false_iff_ne]
    rintro rfl
    exact hfront hc
  rw [CommentForm.IsComment, Text.split, Text.split, String.toList_append, Text.splitWhere_append hnone hqs, hqs]
  rw [List.map_cons, List.map_cons, List.tail_cons, List.forall_mem_cons]
  exact and_iff_right hfirst

theorem tail_split_oneLine (text : String) : (Text.split '\n' (oneLine text)).tail = [] := by
  have hnone : ∀ c ∈ (oneLine text).toList, (c == '\n') = false := by
    intro c hc
    rw [oneLine, Text.replaceChar, String.toList_ofList] at hc
    obtain ⟨x, -, rfl⟩ := List.mem_map.mp hc
    split
    · rfl
    · rename_i hx
      exact beq_eq_false_iff_ne.mpr hx
  rw [Text.split, Text.splitWhere_of_forall hnone]
  rfl

theorem isComment_append_oneLine (h : Leads leader front) (text : String) :
    (CommentForm.line leader).IsComment (front ++ oneLine text) := by
  rw [isComment_append_iff h, tail_split_oneLine]
  simp

end

/-! ### Comments between delimiters -/

/-- No `*/` is left by the replacement, and none is made of what it puts in and what stands beside it. -/
theorem closing_not_infix_replaced (skip : Nat) (cs : List Char) :
    let replaced := ['*', ' ', '/'].intercalate (Text.splitAtChars ['*', '/'] skip cs)
    ¬['*', '/'] <:+: replaced ∧ (skip = 0 → replaced.head? = cs.head?) := by
  intro replaced
  induction cs generalizing skip with
  | nil => cases skip <;> simp [replaced, Text.splitAtChars]
  | cons c cs ih =>
    cases skip with
    | succ skip => exact ⟨(ih skip).1, fun h => absurd h (Nat.succ_ne_zero skip)⟩
    | zero =>
      by_cases hbegin : ['*', '/'] <+: c :: cs
      · obtain ⟨rfl, -⟩ := List.cons_prefix_cons.mp hbegin
        simp only [replaced, Text.intercalate_splitAtChars_of_prefix _ hbegin]
        refine ⟨?_, fun _ => rfl⟩
        simpa [List.infix_cons_iff] using (ih 1).1
      · obtain ⟨hnone, hhead⟩ := ih 0
        simp only [replaced, Text.intercalate_splitAtChars_of_not_prefix _ hbegin]
        refine ⟨?_, fun _ => rfl⟩
        rw [List.infix_cons_iff, not_or, List.cons_prefix_cons]
        refine ⟨?_, hnone⟩
        -- What was not `*/` before does not become it: the next character is still the same.
        rintro ⟨rfl, rest, hrest⟩
        have hcs : cs.head? = some '/' := by
          rw [← hhead rfl, ← hrest]
          rfl
        obtain ⟨tail, rfl⟩ := List.head?_eq_some_iff.mp hcs
        exact hbegin (List.prefix_append ['*', '/'] tail)

/-- Where nothing closes a comment before its end, it is closed there. -/
theorem isComment_enclosed {inside : String} (h : ¬['*', '/'] <:+: ("/*" ++ inside).toList) :
    CommentForm.enclosed.IsComment ("/*" ++ inside ++ "*/\n") := by
  refine ⟨⟨inside, rfl⟩, fun before after heq => ?_⟩
  have hchars : ("/*" ++ inside).toList ++ ['*', '/', '\n'] = before.toList ++ '*' :: '/' :: after.toList := by
    have h := congrArg String.toList heq
    simp only [String.append_assoc, String.toList_append] at h
    rwa [String.toList_append, List.append_assoc]
  rw [← String.toList_inj]
  rcases List.append_eq_append_iff.mp hchars with ⟨rest, -, hrest⟩ | ⟨rest, hinside, hrest⟩
  · match rest with
    | [] => exact (@List.append_cancel_left _ ['*', '/'] _ _ hrest).symm
    | [_] => simp at hrest
    | [_, _] => simp at hrest
    | _ :: _ :: _ :: _ => simp at hrest
  · match rest with
    | [] => exact @List.append_cancel_left _ ['*', '/'] _ _ hrest
    | [_] => simp at hrest
    | c :: d :: rest =>
      -- The delimiter stands before the ending.
      rw [List.cons_append, List.cons_append, List.cons.injEq, List.cons.injEq] at hrest
      obtain ⟨rfl, rfl, -⟩ := hrest
      exact absurd ⟨before.toList, rest, by rw [hinside, List.append_assoc]; rfl⟩ h

theorem isComment_insideComment (front : String) (hfront : ¬['*', '/'] <:+: ("/*" ++ front).toList) (text : String) :
    CommentForm.enclosed.IsComment ("/*" ++ front ++ " " ++ insideComment text ++ " */\n") := by
  have hreplaced : ¬['*', '/'] <:+: (insideComment text).toList := by
    rw [insideComment, Text.toList_replace]
    exact (closing_not_infix_replaced 0 text.toList).1
  have hwhole : "/*" ++ front ++ " " ++ insideComment text ++ " */\n" =
      "/*" ++ (front ++ " " ++ insideComment text ++ " ") ++ "*/\n" := by
    have hend : " */\n" = " " ++ "*/\n" := rfl
    simp only [hend, String.append_assoc]
  have hchars : ("/*" ++ (front ++ " " ++ insideComment text ++ " ")).toList =
      ("/*" ++ front).toList ++ ' ' :: ((insideComment text).toList ++ ' ' :: []) := by
    simp [String.toList_append]
  rw [hwhole]
  apply isComment_enclosed
  rw [hchars, Text.infix_append_cons_iff (by decide), Text.infix_append_cons_iff (by decide)]
  rintro (h | h | h)
  · exact hfront h
  · exact hreplaced h
  · simp at h

/-! ### The comments of the targets -/

/-- How the language of a target writes comments. -/
def commentForm : String → CommentForm
  | "RC" | "JavaC" | "Shell" => .enclosed
  | "JavaJava" | "DebugValidateFunctions" => .line "//"
  | _ => .line "#"

/-- The targets that keep the line feeds of what they comment on. -/
def keepingFeeds : List String := ["RR", "RNamespace", "ShellLn", "DebugListTypes"]

/-- A comment is comment throughout, whatever its text. Where line feeds are kept, this is so exactly if the text itself
goes on as comment behind each of them. -/
theorem isComment_comment_iff {files : Files} {docFolder? : Option String} {name : String} {g : Generator}
    (hg : Generator.ofName? files docFolder? name = some g) (text : String) :
    (commentForm name).IsComment (g.target.comment text) ↔
      (name ∈ keepingFeeds → ∀ line ∈ (Text.split '\n' text).tail, IsCommentLine "#" line) := by
  have hfeeds : "\n\n" = "\n" ++ "\n" := rfl
  have hdown : "\n# " = "\n" ++ "# " := rfl
  have hkept : ∀ {target front}, target ∈ keepingFeeds → Leads "#" front →
      ((CommentForm.line "#").IsComment (front ++ text) ↔
        (target ∈ keepingFeeds → ∀ line ∈ (Text.split '\n' text).tail, IsCommentLine "#" line)) := by
    intro target front htarget hfront
    rw [isComment_append_iff hfront, forall_prop_of_true htarget]
  unfold Generator.ofName? at hg
  split at hg <;> cases hg
  case h_1 => -- RR
    change (CommentForm.line "#").IsComment ("# ERROR: " ++ text ++ "\n\n") ↔ _
    rw [hfeeds, ← String.append_assoc, isComment_append_feed, isComment_append_feed]
    exact hkept (by decide) (by decide)
  case h_2 => -- RC
    refine iff_of_true ?_ fun hkeeps => absurd hkeeps (by decide)
    exact isComment_insideComment " ERROR:" (by decide) text
  case h_3 => -- RNamespace
    change (CommentForm.line "#").IsComment ("# ERROR: " ++ text ++ "\n") ↔ _
    rw [isComment_append_feed]
    exact hkept (by decide) (by decide)
  case h_4 => -- JavaJava
    refine iff_of_true ?_ fun hkeeps => absurd hkeeps (by decide)
    change (CommentForm.line "//").IsComment ("    // " ++ oneLine text ++ "\n")
    rw [isComment_append_feed]
    exact isComment_append_oneLine (by decide) text
  case h_5 => -- JavaC
    refine iff_of_true ?_ fun hkeeps => absurd hkeeps (by decide)
    exact isComment_insideComment "" (by decide) text
  case h_6 | h_7 => -- PythonCTypes, PythonCTypesTypedWrapper
    refine iff_of_true ?_ fun hkeeps => absurd hkeeps (by decide)
    change (CommentForm.line "#").IsComment ("\n# " ++ oneLine text ++ "\n")
    rw [isComment_append_feed, hdown, String.append_assoc, isComment_feed_append]
    exact isComment_append_oneLine (by decide) text
  case h_8 => -- Shell
    refine iff_of_true ?_ fun hkeeps => absurd hkeeps (by decide)
    exact isComment_insideComment " ERROR:" (by decide) text
  case h_9 | h_10 => -- ShellLn, DebugListTypes
    change (CommentForm.line "#").IsComment ("# " ++ text ++ "\n") ↔ _
    rw [isComment_append_feed]
    exact hkept (by decide) (by decide)
  case h_11 => -- DebugValidateFunctions
    refine iff_of_true ?_ fun hkeeps => absurd hkeeps (by decide)
    change (CommentForm.line "//").IsComment ("// " ++ oneLine text ++ "\n")
    rw [isComment_append_feed]
    exact isComment_append_oneLine (by decide) text

/-- What goes on as comment by itself, and a text that closes a comment. -/
theorem isComment_comment_continued :
    Generator.ofName? .empty none "RR" = some ⟨_, none, R.Wrapper.target .empty⟩ ∧
      (commentForm "RR").IsComment ((R.Wrapper.target .empty).comment "A\n  # B\n") ∧
      Generator.ofName? .empty none "JavaC" = some (.stateless Java.Glue.target) ∧
      (commentForm "JavaC").IsComment (Java.Glue.target.comment "A **/*/\n/B") := by
  have hg₁ : Generator.ofName? .empty none "RR" = some ⟨_, none, R.Wrapper.target .empty⟩ := rfl
  have hg₂ : Generator.ofName? .empty none "JavaC" = some (.stateless Java.Glue.target) := rfl
  refine ⟨hg₁, (isComment_comment_iff hg₁ _).mpr fun _ => ?_, hg₂, (isComment_comment_iff hg₂ _).mpr fun h => ?_⟩
  · decide
  · exact absurd h (by decide)

/-- A function whose return type is named by two lines, as far as `RR` renders it. -/
theorem comment_leaves_code :
    let c := (Catalog.empty true).run
      [.functions [("f", .map [("RETURN", .text "A\nB")])], .types [("ERROR", .map [])]]
    let message := "Unknown type 'A\nB' in function 'f'"
    c.validate = .ok () ∧
      (((R.Wrapper.target .empty).guarded "f").run.run ⟨.start c "RR" .default, none⟩).1 =
        .ok ((R.Wrapper.target .empty).comment message) ∧
      ∀ name ∈ keepingFeeds, ∃ g, Generator.ofName? .empty none name = some g ∧
        ¬(commentForm name).IsComment (g.target.comment message) := by
  intro c message
  refine ⟨by decide +kernel, by decide +kernel, ?_⟩
  simp only [keepingFeeds, List.forall_mem_cons]
  refine ⟨⟨_, rfl, ?_⟩, ⟨_, rfl, ?_⟩, ⟨_, rfl, ?_⟩, ⟨_, rfl, ?_⟩, by simp⟩
  all_goals
    change ¬(CommentForm.line "#").IsComment _
    decide +kernel

end Bindery.Target
