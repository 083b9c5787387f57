import Bindery.Proofs.Attr.Each
import Bindery.Proofs.Outline.Joined
import Bindery.Proofs.Outline.Keys
import Bindery.Proofs.Outline.Row

/-! # Writing what was read

Not every tree that is read can be written. A line gives keys that are trimmed and free of colons and commas,
and a text whose pieces do not begin with blanks; the reader stores nothing else (`each_of_read`). The writer
asks for more: it puts every key at the beginning of a line and every piece of a text on a line of its own. What
it refuses of a tree that was read is said by `KeyLine` and `TextLines` alone (`exists_write_iff_of_read`). -/

namespace Bindery.Outline
open Attr (Value Tree)

/-! ### Lines -/

theorem body_of_mem_lineChars {cs l : List Char} (h : l ∈ Text.lineChars cs) :
    ∃ body, '\n' ∉ body ∧ (l = body ∨ l = body ++ ['\n']) := by
  induction cs generalizing l with
  | nil => cases h
  | cons c cs ih =>
    rw [Text.lineChars] at h
    split at h
    · rename_i hc
      subst hc
      rcases List.mem_cons.mp h with rfl | h
      · exact ⟨[], by simp, Or.inr rfl⟩
      · exact ih h
    · rename_i hc
      split at h
      · rw [List.mem_singleton.mp h]
        exact ⟨[c], by simpa using Ne.symm hc, Or.inl rfl⟩
      · rename_i l' ls hlines
        rcases List.mem_cons.mp h with rfl | h
        · obtain ⟨body, hbody, heq⟩ := ih (l := l') (by rw [hlines]; exact List.mem_cons_self ..)
          refine ⟨c :: body, by simp [hbody, Ne.symm hc], heq.imp (congrArg _) (congrArg _)⟩
        · exact ih (by rw [hlines]; exact List.mem_cons_of_mem _ h)

/-- A physical line of a text has no line feed. -/
theorem not_mem_of_mem_ofText {s : String} {raw : List Char} (h : some raw ∈ Line.ofText s) : '\n' ∉ raw := by
  obtain ⟨l, hl, heq⟩ := List.mem_map.mp h
  obtain ⟨body, hbody, hcases⟩ := body_of_mem_lineChars hl
  have hdrop : Text.dropEndWhile Text.isLineEnd l = Text.dropEndWhile Text.isLineEnd body := by
    rcases hcases with rfl | rfl
    · rfl
    · exact Text.dropEndWhile_append (by simp [Text.isLineEnd])
  rw [← Option.some.inj heq, hdrop]
  exact fun hmem => hbody ((Text.dropEndWhile_prefix_self _ _).subset hmem)

/-- The text of every logical line is gathered from physical ones. -/
theorem gathered_of_mem_logicalFrom {ls : List Line} {pending : Option (Nat × Nat × List Char)}
    (hls : ∀ raw, some raw ∈ ls → '\n' ∉ raw)
    (hpending : ∀ e ∈ pending, isContinued e.2.2 = true ∧ Gathered e.2.2) {n number indent : Nat} {text : List Char}
    (h : Logical.content number indent (some text) ∈ logicalFrom n pending ls) : Gathered text := by
  induction ls generalizing n pending with
  | nil =>
    cases pending with
    | none => cases h
    | some e =>
      obtain ⟨hcontinued, hgathered⟩ := hpending e rfl
      cases List.mem_singleton.mp h
      exact hgathered.continueWith hcontinued (by simp)
  | cons l ls ih =>
    have hls' : ∀ raw, some raw ∈ ls → '\n' ∉ raw := fun raw hraw => hls raw (List.mem_cons_of_mem l hraw)
    cases l with
    | none => cases pending <;> cases List.mem_singleton.mp h
    | some raw =>
      have hraw : '\n' ∉ raw := hls raw (List.mem_cons_self ..)
      cases pending with
      | none =>
        simp only [logicalFrom] at h
        split at h
        · exact ih hls' hpending h
        · split at h
          · rename_i hcontinued
            refine ih hls' (fun e he => ?_) h
            cases he
            exact ⟨hcontinued, gathered_trimChars hraw⟩
          · rcases List.mem_cons.mp h with heq | h
            · cases heq
              exact gathered_trimChars hraw
            · exact ih hls' hpending h
      | some e =>
        obtain ⟨hcontinued, hgathered⟩ := hpending e rfl
        have hnext := hgathered.continueWith hcontinued hraw
        simp only [logicalFrom] at h
        split at h
        · rename_i hagain
          refine ih hls' (fun e' he => ?_) h
          cases he
          exact ⟨hagain, hnext⟩
        · rcases List.mem_cons.mp h with heq | h
          · cases heq
            exact hnext
          · exact ih hls' (fun e he => by cases he) h

/-! ### Tokens -/

/-- A key as a line gives it. -/
structure GatheredKey (key : String) : Prop where
  ne_nil : key.toList ≠ []
  trimmed : Text.Trimmed key.toList
  plain : ∀ c ∈ key.toList, c ≠ ':' ∧ c ≠ ','

/-- A text as a line gives it. -/
def GatheredText (s : String) : Prop := Gathered s.toList

/-- A token all of whose keys have one property and whose text has another. -/
def Token.Each (K T : String → Prop) : Token → Prop
  | .key keys => ∀ k ∈ keys, K k
  | .text s => T s
  | .indent | .dedent => True

theorem gatheredKey_of_mem {keys k : List Char} (hcolon : ':' ∉ keys)
    (hk : k ∈ (Text.splitWhere (· == ',') (Text.trimChars keys)).map Text.trimChars) (hne : k ≠ []) :
    GatheredKey (String.ofList k) := by
  obtain ⟨piece, hpiece, rfl⟩ := List.mem_map.mp hk
  have htoList := String.toList_ofList (l := Text.trimChars piece)
  refine ⟨by rwa [htoList], by rw [htoList]; exact Text.trimmed_trimChars piece, fun c hc => ?_⟩
  rw [htoList] at hc
  obtain ⟨hcomma, hmem⟩ := Text.mem_of_mem_splitWhere hpiece c (Text.mem_of_mem_trimChars hc)
  refine ⟨?_, by simpa using hcomma⟩
  rintro rfl
  exact hcolon (Text.mem_of_mem_trimChars hmem)

theorem each_of_textTokens {text : List Char} {ts : List Token} (htext : Gathered text)
    (h : textTokens text = some ts) :
    ∀ t ∈ ts, t.Each GatheredKey GatheredText := by
  unfold textTokens at h
  split at h
  · cases h
    simpa [Token.Each, GatheredText] using htext
  · rename_i keys value hcut
    obtain ⟨c, hc, hkeys, rfl⟩ := Text.cutWhere?_eq_some hcut
    have hvalue : Gathered (Text.trimChars value) := by
      have := htext.joined
      rw [← List.singleton_append, ← List.append_assoc] at this
      exact this.right.gathered_trimChars
    have hcolon : ':' ∉ keys := fun hmem => by simpa using hkeys _ hmem
    simp only at h
    split at h
    · cases h
    · rename_i hany
      have hkey : ∀ k ∈ ((Text.splitWhere (· == ',') (Text.trimChars keys)).map Text.trimChars).map String.ofList,
          GatheredKey k := by
        intro k hk
        obtain ⟨cs, hcs, rfl⟩ := List.mem_map.mp hk
        exact gatheredKey_of_mem hcolon hcs fun hnil => hany (List.any_eq_true.mpr ⟨cs, hcs, by simp [hnil]⟩)
      split at h <;> cases h <;> simp only [List.forall_mem_cons]
      · exact ⟨hkey, by simp⟩
      · exact ⟨hkey, trivial, by simpa [Token.Each, GatheredText] using hvalue, trivial, by simp⟩

theorem each_of_scanLogical (name : String) {cols : List Nat} {ls : List Logical} (hcols : Columns cols)
    (hls : ∀ number indent text, Logical.content number indent (some text) ∈ ls → Gathered text)
    (h : (scanLogical name cols ls).failure = none) :
    ∀ t ∈ (scanLogical name cols ls).tokens, t.Each GatheredKey GatheredText := by
  induction ls generalizing cols with
  | nil =>
    intro t ht
    rw [List.eq_of_mem_replicate ht]
    trivial
  | cons l ls ih =>
    obtain ⟨number, indent, text, moves, cols', ts, rfl, hmoves, hts, h, htokens⟩ := scanLogical_cons h
    obtain ⟨hcols', -, hmoved⟩ := hcols.reindent hmoves
    have hmove : ∀ t ∈ moves, t.Each GatheredKey GatheredText := by
      intro t ht
      rcases hmoved with ⟨rfl, -⟩ | ⟨n, rfl, -⟩
      · rw [List.mem_singleton.mp ht]
        trivial
      · rw [List.eq_of_mem_replicate ht]
        trivial
    rw [htokens, List.forall_mem_append, List.forall_mem_append]
    exact ⟨⟨hmove, each_of_textTokens (hls number indent text (List.mem_cons_self ..)) hts⟩,
      ih hcols' (fun n i t ht => hls n i t (List.mem_cons_of_mem _ ht)) h⟩

/-! ### Reading -/

namespace Reader
variable {K T : String → Prop} {r r' : Reader} {f : Frame} {t : Token} {ts : List Token} {v : Value}

/-- A frame all of whose keys have one property and all of whose texts have another. -/
structure FrameEach (K T : String → Prop) (f : Frame) : Prop where
  keys : ∀ k ∈ f.keys, K k
  value : ∀ v ∈ f.value, v.Each K T

theorem FrameEach.getD (h : FrameEach K T f) : (f.value.getD .empty).Each K T := by
  cases hv : f.value with
  | none => exact Value.each_empty
  | some v => exact h.value v hv

theorem FrameEach.entries (h : FrameEach K T f) : Attr.Each K T f.entries := by
  rw [Attr.each_iff_forall_mem]
  intro e he
  obtain ⟨k, hk, rfl⟩ := List.mem_map.mp he
  exact ⟨h.keys k hk, h.getD⟩

/-- A reader all of whose keys have one property and all of whose texts have another. -/
structure Each (K T : String → Prop) (r : Reader) : Prop where
  frames : ∀ f ∈ r.frames, FrameEach K T f
  root : ∀ v ∈ r.root, v.Each K T

theorem each_start : Each K T start where
  frames := List.forall_mem_cons.mpr ⟨⟨by simp [Frame.anonymous], by simp [Frame.anonymous]⟩, by simp⟩
  root := by simp [start, Value.each_empty]

theorem Each.push (h : Each K T r) (hf : FrameEach K T f) : Each K T (r.push f) where
  frames := List.forall_mem_cons.mpr ⟨hf, h.frames⟩
  root := h.root

theorem Each.of_push (h : Each K T (r.push f)) : Each K T r ∧ FrameEach K T f :=
  ⟨⟨(List.forall_mem_cons.mp h.frames).2, h.root⟩, (List.forall_mem_cons.mp h.frames).1⟩

theorem Each.setTop (h : Each K T r) (hv : v.Each K T) : Each K T (r.setTop v) := by
  obtain ⟨frames, root⟩ := r
  cases frames with
  | nil => exact ⟨h.frames, by simpa [Reader.setTop] using hv⟩
  | cons f below =>
    obtain ⟨hf, hbelow⟩ := List.forall_mem_cons.mp h.frames
    exact ⟨List.forall_mem_cons.mpr ⟨⟨hf.keys, by simpa using hv⟩, hbelow⟩, h.root⟩

theorem Each.top (h : Each K T r) : (r.top.getD .empty).Each K T := by
  obtain ⟨frames, root⟩ := r
  cases frames with
  | nil =>
    cases root with
    | none => exact Value.each_empty
    | some v => exact h.root v rfl
  | cons f below => exact (h.frames f (List.mem_cons_self ..)).getD

/-- A frame that is stored gives its keys and its value to a mapping. -/
theorem Each.store {entries : Tree} (h : Each K T (r.push f)) (htop : r.top.getD .empty = .map entries) :
    Each K T (r.setTop (.map (Entries.setAll entries f.entries))) := by
  obtain ⟨hr, hf⟩ := h.of_push
  have hentries := hr.top
  rw [htop, Value.Each] at hentries
  exact hr.setTop (by rw [Value.Each]; exact hentries.setAll hf.entries)

theorem Each.feed (h : Each K T r) (ht : t.Each K T) (hfed : Fed r t r') : Each K T r' := by
  have hnamed : ∀ keys, (Token.key keys).Each K T → FrameEach K T (.named keys) := fun keys hkeys =>
    ⟨hkeys, by simp [Frame.named, Value.each_empty]⟩
  cases hfed with
  | indent => exact h.push ⟨by simp [Frame.anonymous], by simp [Frame.anonymous]⟩
  | text => exact h.setTop ht
  | key_named keys _ htop => exact (h.store htop).push (hnamed keys ht)
  | key_anonymous _ keys => exact h.of_push.1.push (hnamed keys ht)
  | dedent_named _ htop => exact h.store htop
  | dedent_value _ _ hv => exact h.of_push.1.setTop (h.of_push.2.value _ hv)
  | dedent_empty => exact h.of_push.1

theorem Each.feedAll (h : Each K T r) (hts : ∀ t ∈ ts, t.Each K T) (hok : r.feedAll ts = .ok r') : Each K T r' := by
  induction ts generalizing r with
  | nil =>
    cases hok
    exact h
  | cons t ts ih =>
    rw [List.forall_mem_cons] at hts
    obtain ⟨r₁, hfed, hok⟩ := feedAll_cons_eq_ok hok
    exact ih (h.feed hts.1 hfed) hts.2 hok

theorem Each.finish {tree : Tree} (h : Each K T r) (hok : r.finish = .ok tree) : Attr.Each K T tree := by
  unfold Reader.finish at hok
  split at hok
  · split at hok <;> cases hok
    · trivial
    · rename_i hroot
      exact h.root _ hroot
  · cases hok

end Reader

/-- A tree that is read holds keys and texts as lines give them, and no lists. -/
theorem each_of_read {s : String} {tree : Tree} (h : read s = .ok tree) : Attr.Each GatheredKey GatheredText tree := by
  obtain ⟨r, hscan, hread, hfinish⟩ := read_eq_ok h
  have htokens := each_of_scanLogical "<input>" .outermost
    (fun number indent text => gathered_of_mem_logicalFrom (fun raw => not_mem_of_mem_ofText) (by simp)) hscan
  exact (Reader.each_start.feedAll htokens hread).finish hfinish

/-! ### Writing -/

/-- A key that the writer takes. -/
def KeyTaken (key : String) : Prop := keyFault? key = none

/-- A text that the writer takes. -/
def TextTaken (s : String) : Prop := piecesFault? (pieces s) = none

theorem exists_checkKey_iff {key : String} : (∃ u, checkKey key = .ok u) ↔ KeyTaken key := by
  rw [KeyTaken, checkKey]
  cases keyFault? key <;> simp

theorem exists_writeText_iff (indent key : String) {s : String} : (∃ t, writeText indent key s = .ok t) ↔ TextTaken s := by
  rw [TextTaken, pieces, writeText]
  cases piecesFault? (Text.splitAtChars joiner 0 s.toList) <;> simp

mutual
theorem exists_writeEntry_iff (depth : Nat) {key : String} : ∀ {v : Value}, v.isListFree = true →
    ((∃ t, writeEntry depth key v = .ok t) ↔ KeyTaken key ∧ v.Each KeyTaken TextTaken)
  | .text s, _ => by
    rw [writeEntry, Value.Each, ← exists_checkKey_iff, ← exists_writeText_iff (margin depth) key]
    simp only [bind_eq_ok_iff, pure_eq_ok_iff]
    grind
  | .list items, h => by cases h
  | .map entries, h => by
    rw [Value.isListFree] at h
    rw [writeEntry, Value.Each, ← exists_checkKey_iff, ← exists_writeEntries_iff (depth + 1) h]
    simp only [bind_eq_ok_iff, pure_eq_ok_iff]
    grind
/-- A tree without lists can be written if the writer takes its keys and its texts. -/
theorem exists_writeEntries_iff (depth : Nat) : ∀ {tree : List (String × Value)}, Attr.isListFree tree = true →
    ((∃ ts, writeEntries depth tree = .ok ts) ↔ Attr.Each KeyTaken TextTaken tree)
  | [], _ => by simp [writeEntries, Attr.Each]
  | (key, v) :: rest, h => by
    rw [Attr.isListFree, Bool.and_eq_true] at h
    rw [writeEntries, Attr.Each, ← exists_writeEntry_iff depth h.1, ← exists_writeEntries_iff depth h.2]
    simp only [bind_eq_ok_iff, pure_eq_ok_iff]
    grind
end

/-- A key that a line can begin with: it opens no comment and takes one line. -/
structure KeyLine (key : String) : Prop where
  head : key.toList.head? ≠ some '#'
  oneLine : OneLine key.toList

/-- A text whose pieces stand on lines of their own: none is empty, and neither a line end in one nor a
backslash at the end of the last would be taken for the end of a line. -/
structure TextLines (s : String) : Prop where
  pieces : ∀ p ∈ pieces s, p ≠ []
  carriage : '\r' ∉ s.toList
  last : s.toList.getLast? ≠ some '\\'

instance (key : String) : Decidable (KeyLine key) :=
  -- The characters are tested one by one; deciding a statement about all of them would try every character.
  decidable_of_iff (key.toList.head? ≠ some '#' ∧ key.toList.all (fun c => !Text.isLineEnd c) = true)
    ⟨fun h => ⟨h.1, by simpa [OneLine] using h.2⟩, fun h => ⟨h.head, by simpa [OneLine] using h.oneLine⟩⟩

instance (s : String) : Decidable (TextLines s) :=
  decidable_of_iff ((∀ p ∈ pieces s, p ≠ []) ∧ '\r' ∉ s.toList ∧ s.toList.getLast? ≠ some '\\')
    ⟨fun h => ⟨h.1, h.2.1, h.2.2⟩, fun h => ⟨h.pieces, h.carriage, h.last⟩⟩

theorem GatheredKey.taken_iff {key : String} (h : GatheredKey key) : KeyTaken key ↔ KeyLine key := by
  rw [KeyTaken, keyFault?_eq_none_iff]
  constructor
  · intro hkey
    exact ⟨hkey.head, fun c hc => (hkey.plain c hc).2.2⟩
  · intro hkey
    exact ⟨h.ne_nil, h.trimmed, hkey.head, fun c hc => ⟨(h.plain c hc).1, (h.plain c hc).2, hkey.oneLine c hc⟩⟩

/-- The last character of a gathered text is not blank if its last piece is not empty. -/
theorem GatheredText.isBlank_last {s : String} (h : GatheredText s) {p : List Char} (hlast : (pieces s).getLast? = some p)
    (hp : p ≠ []) : ∀ c ∈ s.toList.getLast?, Text.isBlank c = false := by
  intro c hc
  obtain ⟨hfeed, hhead⟩ := Gathered.splitAtChars h p (List.mem_of_getLast? hlast)
  rcases h.ends c hc with hblank | hjoiner
  · exact hblank
  · -- The text would end with a joiner, so that its last piece is empty.
    exfalso
    obtain ⟨a, ha⟩ := Text.exists_intercalate_eq_append joiner hlast
    rw [intercalate_pieces] at ha
    have hsuffix : p <:+ s.toList := ⟨a, ha.symm⟩
    rcases List.suffix_or_suffix_of_suffix hjoiner hsuffix with hin | hin
    · exact hfeed (hin.subset (by simp [joiner]))
    · simp only [joiner, List.suffix_cons_iff, List.suffix_nil] at hin
      rcases hin with rfl | rfl | rfl | rfl
      · simp at hfeed
      · exact absurd (hhead ' ' rfl) (by decide)
      · exact absurd (hhead ' ' rfl) (by decide)
      · exact hp rfl

theorem GatheredText.taken_iff {s : String} (h : GatheredText s) : TextTaken s ↔ TextLines s := by
  obtain ⟨p, hlast⟩ : ∃ p, (pieces s).getLast? = some p := ⟨_, List.getLast?_eq_some_getLast (pieces_ne_nil s)⟩
  obtain ⟨a, ha⟩ := Text.exists_intercalate_eq_append joiner hlast
  have hchar : '\r' ∈ joiner.intercalate (pieces s) ↔ ∃ p ∈ pieces s, '\r' ∈ p :=
    Text.mem_intercalate_iff (by simp [joiner])
  rw [intercalate_pieces] at ha hchar
  have hend : p ≠ [] → s.toList.getLast? = p.getLast? := by
    intro hp
    rw [ha, List.getLast?_append, List.getLast?_eq_some_getLast hp, Option.some_or]
  rw [TextTaken, piecesFault?_eq_none_iff, hlast]
  constructor
  · rintro ⟨hshape, hfinal⟩
    refine ⟨fun q hq => (hshape q hq).ne_nil, fun hmem => ?_, fun hback => ?_⟩
    · obtain ⟨q, hq, hc⟩ := hchar.mp hmem
      simpa [Text.isLineEnd] using (hshape q hq).lines _ hc
    · rw [hend (hshape p (List.mem_of_getLast? hlast)).ne_nil] at hback
      exact (hfinal p rfl _ hback).2 rfl
  · intro hlines
    refine ⟨fun q hq => ?_, fun q hq c hc => ?_⟩
    · obtain ⟨hfeed, hhead⟩ := Gathered.splitAtChars h q hq
      refine ⟨hlines.pieces q hq, hhead, fun c hc => ?_⟩
      have hcarriage : '\r' ∉ q := fun hmem => hlines.carriage (hchar.mpr ⟨q, hq, hmem⟩)
      have hne : c ≠ '\n' ∧ c ≠ '\r' := ⟨fun heq => hfeed (heq ▸ hc), fun heq => hcarriage (heq ▸ hc)⟩
      simpa [Text.isLineEnd] using hne
    · cases hq
      have hp := hlines.pieces p (List.mem_of_getLast? hlast)
      rw [← hend hp] at hc
      refine ⟨h.isBlank_last hlast hp c hc, ?_⟩
      rintro rfl
      exact hlines.last hc

/-- A tree that was read can be written exactly if none of its keys begins a comment or takes more than one line,
and if no text of it has an empty piece, a carriage return or a backslash at its end. -/
theorem exists_write_iff_of_read {s : String} {tree : Tree} (h : read s = .ok tree) :
    (∃ t, write tree = .ok t) ↔ (∀ k ∈ Attr.keys tree, KeyLine k) ∧ ∀ x ∈ Attr.texts tree, TextLines x := by
  obtain ⟨hfree, hkeys, htexts⟩ := Attr.each_iff.mp (each_of_read h)
  have hwrite : (∃ t, write tree = .ok t) ↔ Attr.Each KeyTaken TextTaken tree := by
    rw [← exists_writeEntries_iff 0 hfree, write]
    simp only [bind_eq_ok_iff, pure_eq_ok_iff]
    grind
  rw [hwrite, Attr.each_iff]
  constructor
  · rintro ⟨-, hkey, htext⟩
    exact ⟨fun k hk => (hkeys k hk).taken_iff.mp (hkey k hk), fun x hx => (htexts x hx).taken_iff.mp (htext x hx)⟩
  · rintro ⟨hkey, htext⟩
    exact ⟨hfree, fun k hk => (hkeys k hk).taken_iff.mpr (hkey k hk),
      fun x hx => (htexts x hx).taken_iff.mpr (htext x hx)⟩

theorem exists_write_iff_of_read_continued :
    read "a, b:\n  c: x \\\n    y\nd:\n" =
        .ok [("a", .map [("c", .text "x \n  y")]), ("b", .map [("c", .text "x \n  y")]), ("d", .map [])] ∧
      ∃ t, write [("a", .map [("c", .text "x \n  y")]), ("b", .map [("c", .text "x \n  y")]), ("d", .map [])] = .ok t := by
  have hread : read "a, b:\n  c: x \\\n    y\nd:\n" =
      .ok [("a", .map [("c", .text "x \n  y")]), ("b", .map [("c", .text "x \n  y")]), ("d", .map [])] := by
    decide +kernel
  exact ⟨hread, (exists_write_iff_of_read hread).mpr (by decide +kernel)⟩

/-- Not every tree that was read can be written: a key that follows another one on its line may begin like a
comment. -/
theorem write_refuses_read :
    ¬∀ (s : String) (tree : Tree), read s = .ok tree → ∃ t, write tree = .ok t := by
  intro h
  obtain ⟨t, ht⟩ := h "a, #b: x\n" [("a", .text "x"), ("#b", .text "x")] (by decide +kernel)
  have hrefused : write [("a", .text "x"), ("#b", .text "x")] =
      .error (.invalidDescriptor "#b" "key must not be padded or start with '#'") := by decide +kernel
  rw [hrefused] at ht
  cases ht

end Bindery.Outline
