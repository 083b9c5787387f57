import Bindery.Proofs.Outline.Level

/-! # Lists of keys

A line with several keys is a shorthand: it reads as one line for each of them, in their order, every one with a
copy of what follows the keys (`readTokens_keys_iff`). What follows them is gathered in their frame, and this depends
neither on the keys nor on the frames below (`feedAll_onto`). -/

namespace Bindery.Outline
open Attr (Value Tree)

/-- Whether a token ends the innermost frame. -/
def Token.endsFrame : Token → Bool
  | .key _ | .dedent => true
  | .indent | .text _ => false

/-- Tokens that close the `n` open blocks and all blocks that they open. No block ends where none is open, and no key
stands outside of blocks. -/
def Balanced : Nat → List Token → Prop
  | n, [] => n = 0
  | n, t :: ts => (t.endsFrame = true → 0 < n) ∧ Balanced (t.level n) ts

/-- Keys one after the other, each with a copy of what follows them. -/
def spelledOut (keys : List String) (body : List Token) : List Token := keys.flatMap fun k => .key [k] :: body

namespace Reader
variable {r r' below : Reader} {f : Frame} {v : Option Value} {w : Value} {t : Token} {ts body post : List Token}
  {keys : List String} {entries : Tree}

/-! ### Readers on top of one another -/

/-- A reader on top of another one: what it gathers in its root belongs to keys. -/
def onto (r : Reader) (keys : List String) (below : Reader) : Reader :=
  ⟨r.frames ++ ⟨keys, r.root⟩ :: below.frames, below.root⟩

theorem onto_setTop : (r.setTop w).onto keys below = (r.onto keys below).setTop w := by
  obtain ⟨frames, root⟩ := r
  cases frames <;> rfl

theorem top_onto : (r.onto keys below).top = r.top := by
  obtain ⟨frames, root⟩ := r
  cases frames <;> rfl

theorem attach_onto : attach f (r.onto keys below) = (attach f r).map (·.onto keys below) := by
  simp only [attach, top_onto, ← onto_setTop]
  split <;> rfl

/-- A token that ends none of the frames below acts on the reader above them. -/
theorem feed_onto (h : t.endsFrame = true → r.frames ≠ []) :
    (r.onto keys below).feed t = ((r.feed t).1.onto keys below, (r.feed t).2) := by
  obtain ⟨frames, root⟩ := r
  cases t with
  | indent => rfl
  | text s => exact congrArg (·, _) onto_setTop.symm
  | key ks =>
    obtain ⟨f, frames, rfl⟩ := List.exists_cons_of_ne_nil (h rfl)
    have hattach : attach f (onto ⟨frames, root⟩ keys below) = _ := attach_onto
    simp only [onto, List.cons_append, feed] at hattach ⊢
    rw [hattach]
    split
    · cases attach f ⟨frames, root⟩ <;> rfl
    · rfl
  | dedent =>
    obtain ⟨f, frames, rfl⟩ := List.exists_cons_of_ne_nil (h rfl)
    have hattach : attach f (onto ⟨frames, root⟩ keys below) = _ := attach_onto
    simp only [onto, List.cons_append, feed] at hattach ⊢
    rw [hattach]
    split
    · cases attach f ⟨frames, root⟩ <;> rfl
    · cases f.value with
      | none => rfl
      | some w => exact congrArg (·, _) (onto_setTop (r := ⟨frames, root⟩)).symm

theorem feedAll_onto (h : Balanced r.frames.length ts) :
    (r.onto keys below).feedAll ts = (r.feedAll ts).map (·.onto keys below) := by
  induction ts generalizing r with
  | nil => rfl
  | cons t ts ih =>
    obtain ⟨hends, hrest⟩ := h
    rw [feedAll, feed_onto fun hend => List.length_pos_iff.mp (hends hend), feedAll]
    rcases hfeed : r.feed t with ⟨r₁, _ | _⟩
    · rfl
    · refine ih ?_
      rw [(fed_of_feed hfeed).length_frames]
      exact hrest

theorem frames_eq_nil_of_feedAll (h : Balanced r.frames.length ts) (hok : r.feedAll ts = .ok r') : r'.frames = [] := by
  induction ts generalizing r with
  | nil =>
    cases hok
    exact List.length_eq_zero_iff.mp h
  | cons t ts ih =>
    obtain ⟨r₁, hfed, hok⟩ := feedAll_cons_eq_ok hok
    refine ih ?_ hok
    rw [hfed.length_frames]
    exact h.2

/-- What follows keys either cannot be read, or gives them one and the same value, whatever they are and wherever
they stand. -/
theorem feedAll_body (h : Balanced 0 body) :
    (∃ e, ∀ keys (r : Reader), (r.push (.named keys)).feedAll body = .error e) ∨
      ∃ v, ∀ keys (r : Reader), (r.push (.named keys)).feedAll body = .ok (r.push ⟨keys, v⟩) := by
  have honto : ∀ keys below, (onto ⟨[], some .empty⟩ keys below).feedAll body = _ := fun _ _ => feedAll_onto h
  cases hbody : feedAll ⟨[], some .empty⟩ body with
  | error e =>
    rw [hbody] at honto
    exact Or.inl ⟨e, honto⟩
  | ok r' =>
    obtain ⟨frames, v⟩ := r'
    obtain rfl : frames = [] := frames_eq_nil_of_feedAll (r := ⟨[], some .empty⟩) h hbody
    rw [hbody] at honto
    exact Or.inr ⟨v, honto⟩

/-! ### Storing the value of keys -/

theorem foldlM_attach (keys : List String) :
    keys.foldlM (fun r k => attach ⟨[k], v⟩ r) (r.setTop (.map entries)) =
      .ok (r.setTop (.map (Entries.setAll entries (Frame.entries ⟨keys, v⟩)))) := by
  induction keys generalizing entries with
  | nil => rfl
  | cons k keys ih =>
    have htop : (r.setTop (.map entries)).top.getD .empty = .map entries := by
      rw [top_setTop]
      rfl
    rw [List.foldlM_cons, attach_of_map htop, ok_bind, setTop_setTop, ih]
    rfl

/-- Keys store their value as each of them would, one after the other. -/
theorem attach_eq_ok_iff (hkeys : keys ≠ []) :
    attach ⟨keys, v⟩ r = .ok r' ↔ keys.foldlM (fun r k => attach ⟨[k], v⟩ r) r = .ok r' := by
  obtain ⟨k, keys, rfl⟩ := List.exists_cons_of_ne_nil hkeys
  rw [List.foldlM_cons, bind_eq_ok_iff]
  constructor
  · intro h
    obtain ⟨entries, htop, rfl⟩ := attach_eq_ok h
    exact ⟨_, attach_of_map htop, foldlM_attach keys⟩
  · rintro ⟨r₁, h, hkeys⟩
    obtain ⟨entries, htop, rfl⟩ := attach_eq_ok h
    rw [attach_of_map htop, ← hkeys]
    exact (foldlM_attach keys).symm

theorem feedAll_endsFrame (ht : t.endsFrame = true) (hf : f.isNamed = true) :
    (r.push f).feedAll (t :: ts) = attach f r >>= fun r' => (r'.push .anonymous).feedAll (t :: ts) := by
  obtain ⟨frames, root⟩ := r
  cases t with
  | indent | text => cases ht
  | key | dedent =>
    simp only [feedAll, push, feed, hf, if_true]
    cases attach f ⟨frames, root⟩ <;> rfl

/-- Keys either cannot stand behind what has been read, whatever they are, or the reader goes on as after the end of
a block. -/
theorem feedAll_keys (r : Reader) :
    (∀ keys ts, ∃ e, r.feedAll (.key keys :: ts) = .error e) ∨
      ∃ r₁ : Reader, ∀ keys ts, r.feedAll (.key keys :: ts) = (r₁.push .anonymous).feedAll (.key keys :: ts) := by
  obtain ⟨_ | ⟨f, frames⟩, root⟩ := r
  · exact Or.inl fun keys ts => ⟨_, rfl⟩
  · cases hf : f.isNamed with
    | false => exact Or.inr ⟨⟨frames, root⟩, fun keys ts => feedAll_cons (.key_anonymous ⟨frames, root⟩ keys hf)⟩
    | true =>
      have hkey : ∀ keys ts, (push ⟨frames, root⟩ f).feedAll (.key keys :: ts) = _ := fun _ _ => feedAll_endsFrame rfl hf
      cases hattach : attach f ⟨frames, root⟩ with
      | error e =>
        rw [hattach] at hkey
        exact Or.inl fun keys ts => ⟨e, hkey keys ts⟩
      | ok r₁ =>
        rw [hattach] at hkey
        exact Or.inr ⟨r₁, hkey⟩

/-! ### Lines of one key -/

theorem head_spelledOut_append (ht : t.endsFrame = true) (keys : List String) :
    ∃ t' ts, spelledOut keys body ++ t :: post = t' :: ts ∧ t'.endsFrame = true := by
  cases keys with
  | nil => exact ⟨t, post, rfl, ht⟩
  | cons k keys => exact ⟨.key [k], _, rfl, rfl⟩

theorem feedAll_spelledOut (hbody : ∀ keys (r : Reader), (r.push (.named keys)).feedAll body = .ok (r.push ⟨keys, v⟩))
    (ht : t.endsFrame = true) (r : Reader) (keys : List String) :
    (r.push .anonymous).feedAll (spelledOut keys body ++ t :: post) =
      keys.foldlM (fun r k => attach ⟨[k], v⟩ r) r >>= fun r' => (r'.push .anonymous).feedAll (t :: post) := by
  induction keys generalizing r with
  | nil => rfl
  | cons k keys ih =>
    -- The next key, or what follows the last one, ends the frame of this key.
    obtain ⟨t', ts, hhead, ht'⟩ : ∃ t' ts, spelledOut keys body ++ t :: post = t' :: ts ∧ t'.endsFrame = true :=
      head_spelledOut_append ht keys
    have hline : spelledOut (k :: keys) body ++ t :: post = .key [k] :: (body ++ t' :: ts) := by
      rw [← hhead]
      simp [spelledOut]
    rw [hline, feedAll_cons (.key_anonymous r [k] rfl), feedAll_append, hbody, ok_bind, feedAll_endsFrame ht' rfl,
      List.foldlM_cons, bind_assoc, ← hhead]
    exact congrArg _ (funext ih)

theorem feedAll_keys_iff (hkeys : keys ≠ []) (hbody : Balanced 0 body) (ht : t.endsFrame = true) :
    r.feedAll (.key keys :: (body ++ t :: post)) = .ok r' ↔ r.feedAll (spelledOut keys body ++ t :: post) = .ok r' := by
  obtain ⟨k, keys, rfl⟩ := List.exists_cons_of_ne_nil hkeys
  have hfirst : spelledOut (k :: keys) body ++ t :: post = .key [k] :: (body ++ (spelledOut keys body ++ t :: post)) := by
    simp [spelledOut]
  rcases feedAll_keys r with hfail | ⟨r₁, hkey⟩
  · obtain ⟨e, he⟩ := hfail (k :: keys) (body ++ t :: post)
    obtain ⟨e', he'⟩ := hfail [k] (body ++ (spelledOut keys body ++ t :: post))
    rw [hfirst, he, he']
    exact iff_of_false nofun nofun
  · rcases feedAll_body hbody with ⟨e, hfail⟩ | ⟨v, hvalue⟩
    · -- What follows the keys cannot be read after the list, nor after its first key.
      have hline : ∀ keys ts, r.feedAll (.key keys :: (body ++ ts)) = .error e := fun keys ts => by
        rw [hkey, feedAll_cons (.key_anonymous r₁ keys rfl), feedAll_append, hfail]
        rfl
      rw [hfirst, hline, hline]
    · have hlist : r.feedAll (.key (k :: keys) :: (body ++ t :: post)) =
          attach ⟨k :: keys, v⟩ r₁ >>= fun r' => (r'.push .anonymous).feedAll (t :: post) := by
        rw [hkey, feedAll_cons (.key_anonymous r₁ (k :: keys) rfl), feedAll_append, hvalue, ok_bind,
          feedAll_endsFrame ht rfl]
      rw [hlist, hfirst, hkey, ← hfirst, feedAll_spelledOut hvalue ht, bind_eq_ok_iff, bind_eq_ok_iff]
      simp only [attach_eq_ok_iff hkeys]

theorem finish_push_ne_ok (hf : f.isNamed = true) (tree : Tree) : (r.push f).finish ≠ .ok tree := by
  obtain ⟨_ | ⟨g, frames⟩, root⟩ := r
  · simp [finish, openFrames, push, hf]
  · simp [finish, openFrames, push]

end Reader

theorem readTokens_ne_ok {keys : List String} {body : List Token} (hkeys : keys ≠ []) (hbody : Balanced 0 body)
    (pre : List Token) (tree : Tree) : readTokens (pre ++ .key keys :: body) ≠ .ok tree := by
  intro h
  obtain ⟨r', hread, hfinish⟩ := bind_eq_ok_iff.mp h
  rw [Reader.feedAll_append, bind_eq_ok_iff] at hread
  obtain ⟨r, -, hread⟩ := hread
  rcases Reader.feedAll_keys r with hfail | ⟨r₁, hkey⟩
  · obtain ⟨e, he⟩ := hfail keys body
    rw [he] at hread
    cases hread
  · rw [hkey, Reader.feedAll_cons (.key_anonymous r₁ keys rfl)] at hread
    rcases Reader.feedAll_body hbody with ⟨e, hfail⟩ | ⟨v, hvalue⟩
    · rw [hfail] at hread
      cases hread
    · -- The frame of the keys is still open at the end.
      rw [hvalue] at hread
      cases hread
      exact Reader.finish_push_ne_ok (by simpa [Frame.isNamed] using hkeys) tree hfinish

/-- A list of keys reads as each of them with a copy of what follows, one after the other: both or neither can be
read, and they give the same tree, in the same order. -/
theorem readTokens_keys_iff {keys : List String} {body post : List Token} (hkeys : keys ≠ []) (hbody : Balanced 0 body)
    (hpost : ∀ t ∈ post.head?, t.endsFrame = true) (pre : List Token) (tree : Tree) :
    readTokens (pre ++ .key keys :: (body ++ post)) = .ok tree ↔
      readTokens (pre ++ (spelledOut keys body ++ post)) = .ok tree := by
  cases post with
  | nil =>
    have hlist : readTokens (pre ++ .key keys :: (body ++ [])) ≠ .ok tree := by
      rw [List.append_nil]
      exact readTokens_ne_ok hkeys hbody pre tree
    have hlast : spelledOut keys body ++ [] =
        spelledOut keys.dropLast body ++ .key [keys.getLast hkeys] :: body := by
      conv_lhs => rw [← List.dropLast_append_getLast hkeys]
      simp [spelledOut]
    have hlines : readTokens (pre ++ (spelledOut keys body ++ [])) ≠ .ok tree := by
      rw [hlast, ← List.append_assoc]
      exact readTokens_ne_ok (List.cons_ne_nil _ _) hbody _ tree
    exact iff_of_false hlist hlines
  | cons t post =>
    have ht : t.endsFrame = true := hpost t rfl
    rw [readTokens, readTokens, bind_eq_ok_iff, bind_eq_ok_iff]
    simp only [Reader.feedAll_append pre, bind_eq_ok_iff, Reader.feedAll_keys_iff hkeys hbody ht]

/-- Two functions share a block, which holds a list of keys itself. -/
theorem readTokens_keys_iff_block :
    Balanced 0 [.indent, .key ["x", "y"], .indent, .text "1", .dedent, .dedent] ∧
      readTokens ([] ++ (spelledOut ["f", "g"] [.indent, .key ["x", "y"], .indent, .text "1", .dedent, .dedent] ++
        [.dedent])) =
        .ok [("f", .map [("x", .text "1"), ("y", .text "1")]), ("g", .map [("x", .text "1"), ("y", .text "1")])] :=
  have hbody := by simp [Balanced, Token.level, Token.endsFrame]
  ⟨hbody, (readTokens_keys_iff (by simp) hbody (by simp [Token.endsFrame]) [] _).mp (by decide)⟩

end Bindery.Outline
