import Bindery.Proofs.Attr.Keys
import Bindery.Proofs.Outline.Level

/-! # The keys that a reader holds

A reader holds the keys of its frames and those of the values gathered in them and in its root. As long as
no key comes twice, ending a frame only moves the keys it holds to the frame below (`Nest.store`); so the
end of a block keeps all keys (`Nest.dedent`). -/

namespace Bindery.Outline
open Attr (Value Tree)

/-- The keys that a frame holds: its own and those of its value. -/
def Frame.held (f : Frame) : List String := f.keys ++ (f.value.getD .empty).keys

theorem Frame.keys_eq_nil {f : Frame} (h : f.isNamed = false) : f.keys = [] := by
  simpa [Frame.isNamed] using h

namespace Reader
variable {r r' : Reader} {f : Frame} {v : Value} {entries : Tree} {t : Token} {deep : Bool} {ks more : List String}
  {k : String} {n : Nat}

/-- The keys that a reader holds, in its frames and in its root. -/
def held (r : Reader) : List String := r.frames.flatMap Frame.held ++ (r.root.getD .empty).keys

@[simp]
theorem held_push : (r.push f).held = f.held ++ r.held := by simp [held, push]

theorem mem_held_of_mem_top (h : k ∈ (r.top.getD .empty).keys) : k ∈ r.held := by
  obtain ⟨frames, root⟩ := r
  cases frames with
  | nil => simpa [held, top] using h
  | cons f below =>
    simp only [held, List.flatMap_cons, List.mem_append, Frame.held]
    exact Or.inl (Or.inl (Or.inr h))

theorem mem_held_setTop (h : ∀ k, k ∈ v.keys ↔ k ∈ (r.top.getD .empty).keys ∨ k ∈ ks) :
    k ∈ (r.setTop v).held ↔ k ∈ r.held ∨ k ∈ ks := by
  obtain ⟨frames, root⟩ := r
  cases frames with
  | nil => simpa [held, setTop, top] using h k
  | cons f below =>
    have hk := h k
    simp only [top] at hk
    simp only [held, setTop, List.flatMap_cons, List.mem_append, Frame.held, Option.getD_some, hk]
    grind

/-- Keys that are distinct and that a reader does not hold. -/
structure Fresh (r : Reader) (ks : List String) : Prop where
  nodup : ks.Nodup
  new : ∀ k ∈ ks, k ∉ r.held

theorem Fresh.of_held (h : Fresh r ks) (hheld : ∀ k, k ∈ r'.held → k ∈ r.held) : Fresh r' ks where
  nodup := h.nodup
  new := fun k hk hmem => h.new k hk (hheld k hmem)

theorem Fresh.left (h : Fresh r (ks ++ more)) : Fresh r ks where
  nodup := (List.nodup_append.mp h.nodup).1
  new := fun k hk => h.new k (List.mem_append_left _ hk)

theorem Fresh.right (h : Fresh r (ks ++ more)) (hheld : ∀ k, k ∈ r'.held → k ∈ r.held ∨ k ∈ ks) : Fresh r' more where
  nodup := (List.nodup_append.mp h.nodup).2.1
  new := by
    intro k hk hmem
    rcases hheld k hmem with hmem | hmem
    · exact h.new k (List.mem_append_right _ hk) hmem
    · exact (List.nodup_append.mp h.nodup).2.2 k hmem k hk rfl

/-! ### Frames -/

/-- The frames of a reader: each has keys, and what lies below it does not hold them. `deep` tells whether the
frame with which a reader starts is still there; nothing has been stored in the root then. -/
inductive Nest : Bool → Reader → Prop
  | root (v : Option Value) : Nest false ⟨[], v⟩
  | start (v : Option Value) : Nest true ⟨[⟨[], v⟩], some .empty⟩
  | frame {deep : Bool} {frames : List Frame} {root : Option Value} {f : Frame} (h : Nest deep ⟨frames, root⟩)
      (hf : f.isNamed = true) (hfresh : Fresh ⟨frames, root⟩ f.keys) : Nest deep ⟨f :: frames, root⟩

theorem Nest.push (h : Nest deep r) (hf : f.isNamed = true) (hfresh : Fresh r f.keys) : Nest deep (r.push f) :=
  .frame h hf hfresh

theorem Nest.of_push_named (h : Nest deep (r.push f)) (hf : f.isNamed = true) : Nest deep r ∧ Fresh r f.keys := by
  obtain ⟨frames, root⟩ := r
  cases h with
  | start v => cases hf
  | frame h _ hfresh => exact ⟨h, hfresh⟩

theorem Nest.of_push_anonymous (h : Nest deep (r.push f)) (hf : f.isNamed = false) :
    deep = true ∧ r = ⟨[], some .empty⟩ := by
  obtain ⟨frames, root⟩ := r
  cases h with
  | start v => exact ⟨rfl, rfl⟩
  | frame _ hf' _ =>
    rw [hf] at hf'
    cases hf'

theorem Nest.setTop (h : Nest deep r) : Nest deep (r.setTop v) := by
  cases h with
  | root _ => exact .root _
  | start _ => exact .start _
  | frame h hf hfresh => exact .frame h hf hfresh

theorem Nest.toNat_le (h : Nest deep r) : deep.toNat ≤ r.frames.length := by
  cases h with
  | root _ | start _ => exact Nat.le_refl _
  | frame _ _ _ => exact Nat.le_trans (Bool.toNat_le _) (Nat.succ_pos _)

/-- A frame that is stored leaves all it holds to what lies below it. -/
theorem Nest.store (h : Nest deep (r.push f)) (hf : f.isNamed = true) (htop : r.top.getD .empty = .map entries) :
    Nest deep (r.setTop (.map (Entries.setAll entries f.entries))) ∧
      ∀ k, k ∈ (r.setTop (.map (Entries.setAll entries f.entries))).held ↔ k ∈ (r.push f).held := by
  obtain ⟨hnest, hfresh⟩ := h.of_push_named hf
  refine ⟨hnest.setTop, fun k => ?_⟩
  have hne : f.keys ≠ [] := by simpa [Frame.isNamed] using hf
  have hnew : ∀ k ∈ f.keys, k ∉ Attr.keys entries := by
    intro k hk hmem
    refine hfresh.new k hk (mem_held_of_mem_top ?_)
    rwa [htop, Value.keys_map]
  have hkeys : ∀ k, k ∈ (Value.map (Entries.setAll entries f.entries)).keys ↔
      k ∈ (r.top.getD .empty).keys ∨ k ∈ f.held := by
    intro k
    rw [htop, Value.keys_map, Value.keys_map, Frame.entries, Attr.mem_keys_setAll hne hfresh.nodup hnew, Frame.held,
      List.mem_append]
  rw [mem_held_setTop hkeys, held_push, List.mem_append, or_comm]

/-- The end of a block keeps all keys. It keeps the frames nested, too, unless it ends the one with which a
reader starts. -/
theorem Nest.dedent (h : Nest deep r) (hfed : Fed r .dedent r') :
    (∀ k, k ∈ r'.held ↔ k ∈ r.held) ∧ (deep.toNat < r.frames.length → Nest deep r') := by
  cases hfed with
  | dedent_named hf htop =>
    obtain ⟨hnest, hheld⟩ := h.store hf htop
    exact ⟨hheld, fun _ => hnest⟩
  | dedent_value r hf hv =>
    obtain ⟨rfl, rfl⟩ := h.of_push_anonymous hf
    refine ⟨fun k => ?_, fun hlt => absurd hlt (by simp)⟩
    simp [held, Reader.push, Reader.setTop, Frame.held, Frame.keys_eq_nil hf, hv]
  | dedent_empty r hf hv =>
    obtain ⟨rfl, rfl⟩ := h.of_push_anonymous hf
    refine ⟨fun k => ?_, fun hlt => absurd hlt (by simp)⟩
    simp [held, Reader.push, Frame.held, Frame.keys_eq_nil hf, hv]

theorem Nest.dedents (h : Nest deep r) (hn : n ≤ r.frames.length)
    (hok : r.feedAll (List.replicate n .dedent) = .ok r') :
    (∀ k, k ∈ r'.held ↔ k ∈ r.held) ∧ (n + deep.toNat ≤ r.frames.length → Nest deep r') := by
  induction n generalizing r with
  | zero =>
    cases hok
    exact ⟨fun k => Iff.rfl, fun _ => h⟩
  | succ n ih =>
    obtain ⟨r₁, hfed, hok⟩ := feedAll_cons_eq_ok hok
    obtain ⟨hheld, hnest⟩ := h.dedent hfed
    have hlen : r₁.frames.length + 1 = r.frames.length := by
      have := hfed.length_frames
      simp only [Token.level] at this
      omega
    by_cases hlt : deep.toNat < r.frames.length
    · obtain ⟨hrest, hnest'⟩ := ih (hnest hlt) (by omega) hok
      exact ⟨fun k => (hrest k).trans (hheld k), fun hle => hnest' (by omega)⟩
    · -- The frame with which a reader starts was the last one.
      have hdeep : deep.toNat ≤ 1 := Bool.toNat_le deep
      obtain rfl : n = 0 := by omega
      cases hok
      exact ⟨hheld, fun hle => absurd hle (by omega)⟩

end Reader
end Bindery.Outline
