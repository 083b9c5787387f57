import Bindery.Outline.Reader
import Bindery.Proofs.Except

/-! # Readers and the frames they hold

How the small operations of a reader act on its innermost frame, and what a token does to a reader: the
seven ways in which one can be placed (`Fed`), and the two in which it cannot (`feed_eq_error`). -/

namespace Bindery.Outline
open Attr (Value Tree)

/-- The entries by which a frame is stored: its value under each of its keys. -/
def Frame.entries (f : Frame) : Tree := f.keys.map fun k => (k, f.value.getD .empty)

namespace Reader
variable {r r' : Reader} {f : Frame} {v w : Value} {entries : Tree} {t : Token} {e : Error}

@[simp]
theorem top_push : (r.push f).top = f.value := rfl

theorem push_inj {g : Frame} : r.push f = r'.push g ↔ r = r' ∧ f = g := by
  obtain ⟨frames, root⟩ := r
  obtain ⟨frames', root'⟩ := r'
  simp only [push, Reader.mk.injEq, List.cons.injEq]
  exact ⟨fun ⟨⟨hf, hframes⟩, hroot⟩ => ⟨⟨hframes, hroot⟩, hf⟩, fun ⟨⟨hframes, hroot⟩, hf⟩ => ⟨⟨hf, hframes⟩, hroot⟩⟩

@[simp]
theorem setTop_push : (r.push f).setTop v = r.push { f with value := some v } := rfl

@[simp]
theorem top_setTop : (r.setTop v).top = some v := by
  obtain ⟨frames, root⟩ := r
  cases frames <;> rfl

@[simp]
theorem setTop_setTop : (r.setTop v).setTop w = r.setTop w := by
  obtain ⟨frames, root⟩ := r
  cases frames <;> rfl

@[simp]
theorem length_frames_push : (r.push f).frames.length = r.frames.length + 1 := rfl

@[simp]
theorem length_frames_setTop : (r.setTop v).frames.length = r.frames.length := by
  obtain ⟨frames, root⟩ := r
  cases frames <;> rfl

theorem attach_of_map (h : r.top.getD .empty = .map entries) :
    attach f r = .ok (r.setTop (.map (Entries.setAll entries f.entries))) := by
  unfold attach
  rw [h]
  rfl

theorem attach_eq_ok (h : attach f r = .ok r') :
    ∃ entries, r.top.getD .empty = .map entries ∧ r' = r.setTop (.map (Entries.setAll entries f.entries)) := by
  unfold attach at h
  split at h
  · rename_i entries htop
    exact ⟨entries, htop, (Except.ok.inj h).symm⟩
  · cases h

theorem attach_eq_error (h : attach f r = .error e) :
    (∀ entries, r.top.getD .empty ≠ .map entries) ∧ e = misplaced (.key f.keys.getLast?.toList) := by
  unfold attach at h
  split at h
  · cases h
  · rename_i hmap
    exact ⟨hmap, (Except.error.inj h).symm⟩

/-! ### Tokens -/

/-- What a token that can be placed does to a reader. -/
inductive Fed : Reader → Token → Reader → Prop
  | indent (r : Reader) : Fed r .indent (r.push .anonymous)
  | text (r : Reader) (s : String) : Fed r (.text s) (r.setTop (.text s))
  | key_named {r : Reader} {f : Frame} {entries : Tree} (keys : List String) (hf : f.isNamed = true)
      (htop : r.top.getD .empty = .map entries) :
      Fed (r.push f) (.key keys) ((r.setTop (.map (Entries.setAll entries f.entries))).push (.named keys))
  | key_anonymous (r : Reader) {f : Frame} (keys : List String) (hf : f.isNamed = false) :
      Fed (r.push f) (.key keys) (r.push (.named keys))
  | dedent_named {r : Reader} {f : Frame} {entries : Tree} (hf : f.isNamed = true)
      (htop : r.top.getD .empty = .map entries) :
      Fed (r.push f) .dedent (r.setTop (.map (Entries.setAll entries f.entries)))
  | dedent_value (r : Reader) {f : Frame} {v : Value} (hf : f.isNamed = false) (hv : f.value = some v) :
      Fed (r.push f) .dedent (r.setTop v)
  | dedent_empty (r : Reader) {f : Frame} (hf : f.isNamed = false) (hv : f.value = none) : Fed (r.push f) .dedent r

theorem Fed.feed (h : Fed r t r') : r.feed t = (r', .ok ()) := by
  cases h with
  | indent | text => rfl
  | key_named keys hf htop =>
    rw [push, Reader.feed]
    simp only [hf, if_true, attach_of_map htop]
  | key_anonymous r keys hf =>
    rw [push, Reader.feed]
    simp [hf]
  | dedent_named hf htop =>
    rw [push, Reader.feed]
    simp only [hf, if_true, attach_of_map htop]
  | dedent_value r hf hv =>
    rw [push, Reader.feed]
    simp [hf, hv]
  | dedent_empty r hf hv =>
    rw [push, Reader.feed]
    simp [hf, hv]

theorem fed_of_feed (h : r.feed t = (r', .ok ())) : Fed r t r' := by
  obtain ⟨frames, root⟩ := r
  cases t with
  | indent =>
    cases h
    exact .indent _
  | text s =>
    cases h
    exact .text _ s
  | key keys =>
    cases frames with
    | nil => cases h
    | cons f below =>
      simp only [Reader.feed] at h
      split at h
      · rename_i hf
        split at h
        · rename_i r₀ hr₀
          obtain ⟨entries, htop, rfl⟩ := attach_eq_ok hr₀
          cases h
          exact .key_named (r := ⟨below, root⟩) keys hf htop
        · cases h
      · rename_i hf
        cases h
        exact .key_anonymous ⟨below, root⟩ keys (by simpa using hf)
  | dedent =>
    cases frames with
    | nil => cases h
    | cons f below =>
      simp only [Reader.feed] at h
      split at h
      · rename_i hf
        split at h
        · rename_i r₀ hr₀
          obtain ⟨entries, htop, rfl⟩ := attach_eq_ok hr₀
          cases h
          exact .dedent_named (r := ⟨below, root⟩) hf htop
        · cases h
      · rename_i hf
        split at h
        · rename_i v hv
          cases h
          exact .dedent_value ⟨below, root⟩ (by simpa using hf) hv
        · rename_i hv
          cases h
          exact .dedent_empty ⟨below, root⟩ (by simpa using hf) hv

/-- A token cannot be placed where no frame is open, or where the frame that it ends belongs into something
other than a mapping. -/
theorem feed_eq_error (h : (r.feed t).2 = .error e) :
    r.frames = [] ∨
      ∃ (r₀ : Reader) (f : Frame), r = r₀.push f ∧ f.isNamed = true ∧
        (∀ entries, r₀.top.getD .empty ≠ .map entries) ∧ e = misplaced (.key f.keys.getLast?.toList) := by
  obtain ⟨frames, root⟩ := r
  cases frames with
  | nil => exact Or.inl rfl
  | cons f below =>
    refine Or.inr ⟨⟨below, root⟩, f, rfl, ?_⟩
    cases t with
    | indent | text => cases h
    | key keys =>
      simp only [Reader.feed] at h
      split at h
      · rename_i hf
        split at h
        · cases h
        · rename_i e' hattach
          cases h
          exact ⟨hf, attach_eq_error hattach⟩
      · cases h
    | dedent =>
      simp only [Reader.feed] at h
      split at h
      · rename_i hf
        split at h
        · cases h
        · rename_i e' hattach
          cases h
          exact ⟨hf, attach_eq_error hattach⟩
      · split at h <;> cases h

/-! ### Sequences of tokens -/

theorem feedAll_cons {ts : List Token} (h : Fed r t r') : r.feedAll (t :: ts) = r'.feedAll ts := by
  rw [feedAll, h.feed]

theorem feedAll_cons_eq_ok {ts : List Token} {r'' : Reader} (h : r.feedAll (t :: ts) = .ok r'') :
    ∃ r', Fed r t r' ∧ r'.feedAll ts = .ok r'' := by
  rw [feedAll] at h
  split at h
  · rename_i r' hfeed
    exact ⟨r', fed_of_feed hfeed, h⟩
  · cases h

theorem feedAll_append (ts us : List Token) : r.feedAll (ts ++ us) = r.feedAll ts >>= fun r' => r'.feedAll us := by
  induction ts generalizing r with
  | nil => rfl
  | cons t ts ih =>
    rw [List.cons_append, feedAll, feedAll]
    split
    · exact ih
    · rfl

/-- Reading fails at a token, after those before it have been read. -/
theorem feedAll_eq_error {ts : List Token} (h : r.feedAll ts = .error e) :
    ∃ before t after r', ts = before ++ t :: after ∧ r.feedAll before = .ok r' ∧ (r'.feed t).2 = .error e := by
  induction ts generalizing r with
  | nil => cases h
  | cons t ts ih =>
    rw [feedAll] at h
    split at h
    · rename_i r₁ hfeed
      obtain ⟨before, t', after, r', rfl, hbefore, herror⟩ := ih h
      refine ⟨t :: before, t', after, r', rfl, ?_, herror⟩
      rw [feedAll, hfeed]
      exact hbefore
    · rename_i r₁ e' hfeed
      cases h
      exact ⟨[], t, ts, r, rfl, rfl, by rw [hfeed]⟩

end Reader

/-! ### Texts -/

theorem read_eq_readTokens {s : String} (h : (scan s).failure = none) : read s = readTokens (scan s).tokens := by
  rw [read, Scan.read, h, readTokens]

theorem read_eq_ok {s : String} {tree : Tree} (h : read s = .ok tree) :
    ∃ r, (scan s).failure = none ∧ Reader.start.feedAll (scan s).tokens = .ok r ∧ r.finish = .ok tree := by
  rw [read, Scan.read, bind_eq_ok_iff] at h
  obtain ⟨r, hread, h⟩ := h
  split at h
  · cases h
  · rename_i hscan
    exact ⟨r, hscan, hread, h⟩

end Bindery.Outline
