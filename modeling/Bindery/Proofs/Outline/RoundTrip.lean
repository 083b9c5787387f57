import Bindery.Proofs.Attr.Shape
import Bindery.Proofs.Entries
import Bindery.Proofs.Outline.Feed
import Bindery.Proofs.Outline.RowScan

/-! # Reading what was written

A tree that can be written is read back from its written form: the same names in the same order at every
depth, with the same texts. Only lists do not come back as lists, since an outline shows their items as a
text (`plain`). -/

namespace Bindery.Outline
open Attr (Value Tree)

mutual
/-- The value that an outline shows: a list is its items with commas. -/
def plainValue : Value → Value
  | .text s => .text s
  | .list items => .text (Text.commaJoin items)
  | .map entries => .map (plain entries)
termination_by structural v => v
/-- The tree that an outline shows. -/
def plain : List (String × Value) → List (String × Value)
  | [] => []
  | (key, value) :: rest => (key, plainValue value) :: plain rest
termination_by structural es => es
end

theorem names_plain (tree : Tree) : Entries.names (plain tree) = Entries.names tree := by
  induction tree with
  | nil => rfl
  | cons e rest ih =>
    obtain ⟨key, value⟩ := e
    simp only [Entries.names] at ih
    simp [plain, Entries.names, ih]

mutual
theorem plainValue_of_isListFree : ∀ {v : Value}, v.isListFree = true → plainValue v = v
  | .text _, _ => rfl
  | .list _, h => by cases h
  | .map entries, h => by rw [plainValue, plain_of_isListFree h]
theorem plain_of_isListFree : ∀ {tree : List (String × Value)}, Attr.isListFree tree = true → plain tree = tree
  | [], _ => rfl
  | (key, value) :: rest, h => by
    rw [Attr.isListFree, Bool.and_eq_true] at h
    rw [plain, plainValue_of_isListFree h.1, plain_of_isListFree h.2]
end

theorem setAll_plain {k : String} {v : Value} {rest : Tree} (h : Attr.isDistinct ((k, v) :: rest) = true) :
    Entries.setAll (Entries.set [] k (plainValue v)) (plain rest) = plain ((k, v) :: rest) := by
  have hnodup := Attr.nodup_of_isDistinct h
  rw [← names_plain] at hnodup
  obtain ⟨hk, hrest⟩ := List.nodup_cons.mp hnodup
  refine Entries.setAll_of_new (t := [(k, plainValue v)]) hrest fun name hname hmem => ?_
  cases List.mem_singleton.mp hmem
  exact hk hname

/-! ### Reading the tokens of a tree -/

mutual
/-- The tokens of a value give it to the frame of its key. -/
theorem feedAll_valueTokens {r : Reader} {key : String} (ts : List Token) :
    ∀ {v : Value}, v.isDistinct = true →
      (r.push (.named [key])).feedAll (valueTokens v ++ ts) = (r.push ⟨[key], some (plainValue v)⟩).feedAll ts
  | .text s, _ => rfl
  | .list items, _ => rfl
  | .map [], _ => rfl
  | .map ((k, v) :: rest), h => by
    obtain ⟨-, hv, hrest⟩ := Attr.isDistinct_cons.mp h
    have htop : (r.push (.named [key])).top.getD .empty = .map [] := rfl
    have htokens : valueTokens (.map ((k, v) :: rest)) ++ ts =
        .indent :: .key [k] :: (valueTokens v ++ (treeTokens rest ++ .dedent :: ts)) := by
      simp [valueTokens, treeTokens, block]
    rw [htokens, Reader.feedAll_cons (.indent _), Reader.feedAll_cons (.key_anonymous _ [k] rfl),
      feedAll_valueTokens _ hv, feedAll_treeTokens htop ts hrest, setAll_plain h, Reader.setTop_push, plainValue]
    rfl
/-- The tokens of a tree up to the end of its block store the entries of the tree, after the one that is
still open. -/
theorem feedAll_treeTokens {r : Reader} {done : Tree} {k : String} {w : Value} (htop : r.top.getD .empty = .map done)
    (ts : List Token) :
    ∀ {tree : List (String × Value)}, Attr.isDistinct tree = true →
      (r.push ⟨[k], some w⟩).feedAll (treeTokens tree ++ .dedent :: ts) =
        (r.setTop (.map (Entries.setAll (Entries.set done k w) (plain tree)))).feedAll ts
  | [], _ => Reader.feedAll_cons (.dedent_named rfl htop)
  | (k', v) :: rest, h => by
    obtain ⟨-, hv, hrest⟩ := Attr.isDistinct_cons.mp h
    have htop' : (r.setTop (.map (Entries.set done k w))).top.getD .empty = .map (Entries.set done k w) := by simp
    rw [treeTokens, List.cons_append, List.append_assoc, Reader.feedAll_cons (.key_named [k'] rfl htop)]
    have ih := feedAll_treeTokens htop' ts hrest (k := k') (w := plainValue v)
    rw [Reader.setTop_setTop] at ih
    exact (feedAll_valueTokens _ hv).trans ih
end

/-- The tokens of a tree are read as what an outline shows of it. -/
theorem readTokens_treeTokens {tree : Tree} (h : Attr.isDistinct tree = true) :
    readTokens (treeTokens tree ++ [.dedent]) = .ok (plain tree) := by
  cases tree with
  | nil => rfl
  | cons e rest =>
    obtain ⟨k, v⟩ := e
    obtain ⟨-, hv, hrest⟩ := Attr.isDistinct_cons.mp h
    have hstart : Reader.start = (Reader.mk [] (some .empty)).push .anonymous := rfl
    rw [readTokens, hstart, treeTokens, List.cons_append, List.append_assoc,
      Reader.feedAll_cons (.key_anonymous _ [k] rfl), feedAll_valueTokens _ hv, feedAll_treeTokens rfl [] hrest,
      setAll_plain h]
    rfl

/-- A written tree is read as what an outline shows of it. -/
theorem read_of_write {tree : Tree} {s : String} (h : Attr.isDistinct tree = true) (hw : write tree = .ok s) :
    read s = .ok (plain tree) := by
  have hscan := scan_write hw
  rw [read_eq_readTokens (by rw [hscan]), hscan]
  exact readTokens_treeTokens h

/-- A tree without lists that can be written is read back as it was. The names of a tree that is built
entry by entry are distinct. -/
theorem read_write {tree : Tree} {s : String} (hd : Attr.isDistinct tree = true)
    (hl : Attr.isListFree tree = true) (hw : write tree = .ok s) : read s = .ok tree := by
  rw [read_of_write hd hw, plain_of_isListFree hl]

theorem read_write_continued :
    write [("f", .map [("CALL", .text "a \\\n  b"), ("DEPS", .map [])]), ("g", .text "x: y")] =
        .ok "f:\n    CALL: a \\\\\n        b\n    DEPS:\n\ng: x: y\n" ∧
      read "f:\n    CALL: a \\\\\n        b\n    DEPS:\n\ng: x: y\n" =
        .ok [("f", .map [("CALL", .text "a \\\n  b"), ("DEPS", .map [])]), ("g", .text "x: y")] := by
  have hw : write [("f", .map [("CALL", .text "a \\\n  b"), ("DEPS", .map [])]), ("g", .text "x: y")] =
      .ok "f:\n    CALL: a \\\\\n        b\n    DEPS:\n\ng: x: y\n" := by decide +kernel
  exact ⟨hw, read_write (by decide +kernel) (by decide +kernel) hw⟩

end Bindery.Outline
