import Bindery.Proofs.Outline.Feed
import Bindery.Proofs.Text.Pieces

/-! # The number of open blocks

A scan that does not fail closes every block it opens, and the outermost one last: counted from one open
block, its tokens lead to none, and a block is open before each of them (`Leads`). A reader has one frame
for every open block, so it never meets the end of a block or a key without a frame, and no frame is left
at the end. What remains are trees that cannot be: a key below a text, and a text in the place of a tree. -/

namespace Bindery.Outline
open Attr (Value Tree)

/-- The number of open blocks after a token, where `n` are open before it. -/
def Token.level (n : Nat) : Token → Nat
  | .indent => n + 1
  | .dedent => n - 1
  | .key _ | .text _ => n

/-- Tokens lead from one number of open blocks to another, and a block is open before each of them. -/
def Leads : Nat → List Token → Nat → Prop
  | m, [], n => m = n
  | m, t :: ts, n => 0 < m ∧ Leads (t.level m) ts n

section Leads
variable {m n : Nat} {ts us : List Token}

theorem leads_append_iff : Leads m (ts ++ us) n ↔ ∃ k, Leads m ts k ∧ Leads k us n := by
  induction ts generalizing m with
  | nil => simp [Leads]
  | cons t ts ih => simp only [List.cons_append, Leads, ih, exists_and_left, and_assoc]

theorem leads_replicate_dedent (n : Nat) : Leads n (List.replicate n .dedent) 0 := by
  induction n with
  | zero => rfl
  | succ n ih => exact ⟨Nat.succ_pos n, ih⟩

theorem Leads.count (h : Leads m ts n) : ts.count .dedent + n = ts.count .indent + m := by
  induction ts generalizing m with
  | nil => simpa using h.symm
  | cons t ts ih =>
    obtain ⟨hm, h⟩ := h
    have ih := ih h
    cases t <;> simp [Token.level] at ih ⊢ <;> omega

theorem Leads.count_lt {t : Token} (h : Leads m (ts ++ t :: us) n) : ts.count .dedent < ts.count .indent + m := by
  obtain ⟨k, hts, hk, -⟩ := leads_append_iff.mp h
  have := hts.count
  omega

end Leads

/-! ### Scanning -/

theorem closeTo_leads {i : Nat} {cols cols' : List Nat} {moves : List Token} (h : closeTo i cols = some (moves, cols')) :
    cols' ≠ [] ∧ Leads cols.length moves cols'.length := by
  induction cols generalizing moves with
  | nil => cases h
  | cons level below ih =>
    rw [closeTo] at h
    split at h
    · obtain ⟨⟨ts, cols⟩, hbelow, heq⟩ := Option.map_eq_some_iff.mp h
      cases heq
      obtain ⟨hne, hleads⟩ := ih hbelow
      exact ⟨hne, Nat.succ_pos _, hleads⟩
    · split at h
      · cases h
        exact ⟨List.cons_ne_nil _ _, rfl⟩
      · cases h

theorem reindent_leads {i : Nat} {cols cols' : List Nat} {moves : List Token}
    (h : reindent i cols = some (moves, cols')) : cols' ≠ [] ∧ Leads cols.length moves cols'.length := by
  unfold reindent at h
  split at h
  · cases h
  · split at h
    · cases h
      exact ⟨List.cons_ne_nil _ _, Nat.succ_pos _, rfl⟩
    · exact closeTo_leads h

/-- The keys that the text of a logical line sets in front of its colon, if it has one. -/
def lineKeys (text : List Char) : List String :=
  match Text.cutWhere? (· == ':') text with
  | none => []
  | some (keys, _) => ((Text.splitWhere (· == ',') (Text.trimChars keys)).map Text.trimChars).map String.ofList

theorem lineKeys_ne_nil {text : List Char} (h : ':' ∈ text) : lineKeys text ≠ [] := by
  unfold lineKeys
  split
  · rename_i hcut
    exact absurd h (Text.cutWhere?_beq_eq_none_iff.mp hcut)
  · simpa using Text.splitWhere_ne_nil _ _

/-- A line without a colon is one text. A line of keys gives them, with a block around their value if they
have one. -/
theorem textTokens_cases {text : List Char} {ts : List Token} (h : textTokens text = some ts) :
    (':' ∉ text ∧ ∃ s, ts = [.text s]) ∨
      ':' ∈ text ∧ ∃ us, ts = .key (lineKeys text) :: us ∧ (us = [] ∨ ∃ s, us = [.indent, .text s, .dedent]) := by
  cases hcut : Text.cutWhere? (· == ':') text with
  | none =>
    simp only [textTokens, hcut] at h
    cases h
    exact Or.inl ⟨Text.cutWhere?_beq_eq_none_iff.mp hcut, _, rfl⟩
  | some cut =>
    obtain ⟨keys, value⟩ := cut
    have hcolon : ':' ∈ text := Decidable.byContradiction fun hnot => by
      rw [Text.cutWhere?_beq_eq_none_iff.mpr hnot] at hcut
      cases hcut
    refine Or.inr ⟨hcolon, ?_⟩
    simp only [textTokens, hcut] at h
    simp only [lineKeys, hcut]
    split at h
    · cases h
    · split at h <;> cases h
      · exact ⟨_, rfl, Or.inl rfl⟩
      · exact ⟨_, rfl, Or.inr ⟨_, rfl⟩⟩

theorem textTokens_leads {text : List Char} {ts : List Token} (h : textTokens text = some ts) {n : Nat} (hn : 0 < n) :
    Leads n ts n := by
  rcases textTokens_cases h with ⟨-, s, rfl⟩ | ⟨-, us, rfl, rfl | ⟨s, rfl⟩⟩ <;> simp [Leads, Token.level, hn]

/-- A line that is scanned is a text at a column that can be reached, and its tokens come first. -/
theorem scanLogical_cons {name : String} {cols : List Nat} {l : Logical} {ls : List Logical}
    (h : (scanLogical name cols (l :: ls)).failure = none) :
    ∃ number indent text moves cols' ts, l = .content number indent (some text) ∧
      reindent indent cols = some (moves, cols') ∧ textTokens text = some ts ∧
      (scanLogical name cols' ls).failure = none ∧
      (scanLogical name cols (l :: ls)).tokens = moves ++ ts ++ (scanLogical name cols' ls).tokens := by
  cases l with
  | unreadable => cases h
  | content number indent text =>
    rw [scanLogical] at h ⊢
    split at h
    · cases h
    · rename_i moves cols' hmoves
      split at h
      · cases h
      · rename_i text
        split at h
        · cases h
        · rename_i ts hts
          exact ⟨number, indent, text, moves, cols', ts, rfl, hmoves, hts, h, rfl⟩

/-- The columns that are open are the blocks that the tokens of the remaining lines close. -/
theorem scanLogical_leads {name : String} {cols : List Nat} {ls : List Logical} (hcols : cols ≠ [])
    (h : (scanLogical name cols ls).failure = none) : Leads cols.length (scanLogical name cols ls).tokens 0 := by
  induction ls generalizing cols with
  | nil => exact leads_replicate_dedent cols.length
  | cons l ls ih =>
    obtain ⟨number, indent, text, moves, cols', ts, rfl, hmoves, hts, h, htokens⟩ := scanLogical_cons h
    obtain ⟨hcols', hleads⟩ := reindent_leads hmoves
    rw [htokens]
    exact leads_append_iff.mpr ⟨_, leads_append_iff.mpr ⟨_, hleads,
      textTokens_leads hts (List.length_pos_iff.mpr hcols')⟩, ih hcols' h⟩

theorem scan_leads {s : String} (h : (scan s).failure = none) : Leads 1 (scan s).tokens 0 :=
  scanLogical_leads (List.cons_ne_nil 0 []) h

/-! ### Reading -/

namespace Reader
variable {r r' : Reader} {t : Token} {ts : List Token} {e : Error} {m n : Nat}

/-- A reader has one frame for every open block. -/
theorem Fed.length_frames (h : Fed r t r') : r'.frames.length = t.level r.frames.length := by
  cases h <;> simp [Token.level]

theorem length_frames_of_feedAll (h : r.feedAll ts = .ok r') (hleads : Leads r.frames.length ts n) :
    r'.frames.length = n := by
  induction ts generalizing r with
  | nil =>
    cases h
    exact hleads
  | cons t ts ih =>
    obtain ⟨r₁, hfed, h⟩ := feedAll_cons_eq_ok h
    refine ih h ?_
    rw [hfed.length_frames]
    exact hleads.2

theorem frames_ne_nil_of_leads {us : List Token} (h : r.feedAll ts = .ok r')
    (hleads : Leads r.frames.length (ts ++ t :: us) n) : r'.frames ≠ [] := by
  obtain ⟨k, hts, hk, -⟩ := leads_append_iff.mp hleads
  rw [← List.length_pos_iff, length_frames_of_feedAll h hts]
  exact hk

/-- A reader gathers texts and mappings, and its root always has a value. -/
structure Listless (r : Reader) : Prop where
  frames : ∀ f ∈ r.frames, ∀ items, f.value ≠ some (.list items)
  root : ∃ v, r.root = some v ∧ ∀ items, v ≠ .list items

theorem listless_start : Listless start where
  frames := by simp [start, Frame.anonymous]
  root := ⟨.empty, rfl, by simp [Value.empty]⟩

theorem Listless.push {f : Frame} (h : Listless r) (hf : ∀ items, f.value ≠ some (.list items)) : Listless (r.push f) where
  frames := List.forall_mem_cons.mpr ⟨hf, h.frames⟩
  root := h.root

theorem Listless.of_push {f : Frame} (h : Listless (r.push f)) : Listless r where
  frames := (List.forall_mem_cons.mp h.frames).2
  root := h.root

theorem Listless.setTop {v : Value} (h : Listless r) (hv : ∀ items, v ≠ .list items) : Listless (r.setTop v) := by
  obtain ⟨frames, root⟩ := r
  cases frames with
  | nil => exact ⟨by simp [Reader.setTop], v, rfl, hv⟩
  | cons f below =>
    refine ⟨List.forall_mem_cons.mpr ⟨fun items => ?_, (List.forall_mem_cons.mp h.frames).2⟩, h.root⟩
    simpa using hv items

theorem Listless.top (h : Listless r) (items : List String) : r.top ≠ some (.list items) := by
  obtain ⟨frames, root⟩ := r
  cases frames with
  | nil =>
    obtain ⟨v, hroot, hv⟩ := h.root
    simp only at hroot
    simpa [Reader.top, hroot] using hv items
  | cons f below => exact h.frames f (by simp) items

theorem Listless.top_eq_text (h : Listless r) (hmap : ∀ entries, r.top.getD .empty ≠ .map entries) :
    ∃ s, r.top = some (.text s) := by
  cases htop : r.top with
  | none => exact absurd (by rw [htop]; rfl) (hmap [])
  | some v =>
    cases v with
    | text s => exact ⟨s, rfl⟩
    | list items => exact absurd htop (h.top items)
    | map entries => exact absurd (by rw [htop]; rfl) (hmap entries)

theorem Listless.feed (h : Listless r) (hfed : Fed r t r') : Listless r' := by
  cases hfed with
  | indent => exact h.push (by simp [Frame.anonymous])
  | text => exact h.setTop (by simp)
  | key_named => exact (h.of_push.setTop (by simp)).push (by simp [Frame.named, Value.empty])
  | key_anonymous => exact h.of_push.push (by simp [Frame.named, Value.empty])
  | dedent_named => exact h.of_push.setTop (by simp)
  | dedent_value _ hf hv =>
    refine h.of_push.setTop ?_
    rintro items rfl
    exact (List.forall_mem_cons.mp h.frames).1 items hv
  | dedent_empty => exact h.of_push

theorem Listless.feedAll (h : Listless r) (hok : r.feedAll ts = .ok r') : Listless r' := by
  induction ts generalizing r with
  | nil =>
    cases hok
    exact h
  | cons t ts ih =>
    obtain ⟨r₁, hfed, hok⟩ := feedAll_cons_eq_ok hok
    exact ih (h.feed hfed) hok

end Reader

/-- Reading tokens fails at a key below a text: at some token the keys of a line are ended, the last of them
`k`, and the frame below theirs holds a text. -/
def KeyBelowText (ts : List Token) (e : Error) : Prop :=
  ∃ before t after, ts = before ++ t :: after ∧
    ∃ (r : Reader) (f : Frame) (k s : String), Reader.start.feedAll before = .ok (r.push f) ∧
      ((r.push f).feed t).2 = .error e ∧ f.keys.getLast? = some k ∧ r.top = some (.text s) ∧
      e = Reader.misplaced (.key [k])

/-- Reading tokens fails at their end, because they describe a text and not a tree. -/
def TopLevelText (ts : List Token) (e : Error) : Prop :=
  ∃ (r : Reader) (s : String), Reader.start.feedAll ts = .ok r ∧ r.frames = [] ∧ r.root = some (.text s) ∧
    e = .unexpectedToken "top-level text value"

theorem openFrames_eq_nil {ts : List Token} {r : Reader} (hleads : Leads 1 ts 0)
    (h : Reader.start.feedAll ts = .ok r) : r.openFrames = [] := by
  rw [Reader.openFrames, List.length_eq_zero_iff.mp (Reader.length_frames_of_feedAll h hleads)]

/-- Tokens that lead from the outermost block to none can be read, apart from keys below a text and a text
in the place of a tree. -/
theorem keyBelowText_or_topLevelText {ts : List Token} {e : Error} (hleads : Leads 1 ts 0)
    (h : readTokens ts = .error e) : KeyBelowText ts e ∨ TopLevelText ts e := by
  rw [readTokens] at h
  cases hread : Reader.start.feedAll ts with
  | error e' =>
    rw [hread] at h
    cases h
    obtain ⟨before, t, after, r, rfl, hbefore, hfeed⟩ := Reader.feedAll_eq_error hread
    have hframes := Reader.frames_ne_nil_of_leads hbefore hleads
    have hlistless := Reader.listless_start.feedAll hbefore
    rcases Reader.feed_eq_error hfeed with hnil | ⟨r₀, f, rfl, hf, hmap, he⟩
    · exact absurd hnil hframes
    · obtain ⟨s, htop⟩ := hlistless.of_push.top_eq_text hmap
      have hkeys : f.keys ≠ [] := by simpa [Frame.isNamed] using hf
      have hlast := List.getLast?_eq_some_getLast hkeys
      rw [hlast] at he
      exact Or.inl ⟨before, t, after, rfl, r₀, f, _, s, hbefore, hfeed, hlast, htop, he⟩
  | ok r =>
    rw [hread, ok_bind, Reader.finish, openFrames_eq_nil hleads hread] at h
    have hframes := List.length_eq_zero_iff.mp (Reader.length_frames_of_feedAll hread hleads)
    obtain ⟨v, hroot, hv⟩ := (Reader.listless_start.feedAll hread).root
    rw [hroot] at h
    cases v with
    | text s =>
      cases h
      exact Or.inr ⟨r, s, hread, hframes, hroot, rfl⟩
    | list items => exact absurd rfl (hv items)
    | map entries => cases h

/-! ### Texts -/

/-- The failure of an outline that ends with `n` blocks open. -/
def stillOpen (n : Nat) : Error := .unexpectedToken s!"end of input with {n} open block(s)"

theorem unexpectedToken_ne {a b : String} (h : a.toList.head? ≠ b.toList.head?) :
    Error.unexpectedToken a ≠ .unexpectedToken b := by
  intro heq
  exact h (congrArg (fun s => s.toList.head?) (Error.unexpectedToken.inj heq))

theorem KeyBelowText.ne {ts : List Token} {e : Error} (h : KeyBelowText ts e) :
    e ≠ Reader.misplaced .dedent ∧ ∀ n, e ≠ stillOpen n := by
  obtain ⟨_, _, _, _, _, _, k, _, _, _, _, _, rfl⟩ := h
  exact ⟨unexpectedToken_ne (by simp [Token.show]), fun n => unexpectedToken_ne (by simp [Token.show, toString])⟩

theorem TopLevelText.ne {ts : List Token} {e : Error} (h : TopLevelText ts e) :
    e ≠ Reader.misplaced .dedent ∧ ∀ n, e ≠ stillOpen n := by
  obtain ⟨_, _, _, _, _, rfl⟩ := h
  exact ⟨unexpectedToken_ne (by simp [Token.show]), fun n => unexpectedToken_ne (by simp [toString])⟩

/-- Of the tokens of a text: they close one block more than they open, and none of their beginnings closes
more than it opens; a frame is there for each of them, and none is left at their end; and if the text
cannot be read, then for a key below a text or for a text in the place of the tree. -/
structure ClosesBlocks (s : String) : Prop where
  total : (scan s).tokens.count .dedent = (scan s).tokens.count .indent + 1
  beginning : ∀ ts, ts <+: (scan s).tokens → ts ≠ (scan s).tokens → ts.count .dedent ≤ ts.count .indent
  frame_before : ∀ before t after r, (scan s).tokens = before ++ t :: after → Reader.start.feedAll before = .ok r →
    r.frames ≠ []
  none_after : ∀ r, Reader.start.feedAll (scan s).tokens = .ok r → r.openFrames = []
  failure : ∀ e, read s = .error e →
    (KeyBelowText (scan s).tokens e ∨ TopLevelText (scan s).tokens e) ∧ e ≠ Reader.misplaced .dedent ∧
      ∀ n, e ≠ stillOpen n

theorem closesBlocks_of_scan {s : String} (h : (scan s).failure = none) : ClosesBlocks s := by
  have hleads := scan_leads h
  constructor
  case total => exact hleads.count
  case beginning =>
    rintro ts ⟨us, hus⟩ hne
    cases us with
    | nil => exact absurd (by simpa using hus) hne
    | cons t us =>
      rw [← hus] at hleads
      exact Nat.lt_succ_iff.mp hleads.count_lt
  case frame_before =>
    intro before t after r heq hbefore
    rw [heq] at hleads
    exact Reader.frames_ne_nil_of_leads hbefore hleads
  case none_after => exact fun r => openFrames_eq_nil hleads
  case failure =>
    intro e he
    rw [read_eq_readTokens h] at he
    rcases keyBelowText_or_topLevelText hleads he with hkey | htext
    · exact ⟨Or.inl hkey, hkey.ne⟩
    · exact ⟨Or.inr htext, htext.ne⟩

/-- A block that begins deeper than a later one, a key below a text and a line continued at the end. -/
theorem closesBlocks_deep_start :
    (scan "    a: x\n      b: y\nc: z\\").failure = none ∧ ClosesBlocks "    a: x\n      b: y\nc: z\\" :=
  ⟨by decide +kernel, closesBlocks_of_scan (by decide +kernel)⟩

end Bindery.Outline
