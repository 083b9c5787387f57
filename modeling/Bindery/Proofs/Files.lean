import Bindery.Docs
import Bindery.Proofs.Except

/-! # What a written file changes

A file is written to a slot, which is a place where no folder stands. All folders stay (`SameFolders`), so every path
leads to the place that it has led to before, and nothing changes but what the slot holds. What is read from other
places is read as before, and so is a folder of documentation if nothing in it was written (`readFolder_put`). -/

namespace Bindery
namespace Files
variable {d d' : Files} {path text : String} {x y : Place} {content : Content}

/-! ### Looking up -/

theorem lookUp_eq_ok_iff {node : Node} :
    d.lookUp path = .ok node ↔ ∃ x, d.place path = .ok x ∧ d.node? x = some node := by
  simp only [lookUp, bind_eq_ok_iff]
  refine exists_congr fun x => and_congr_right fun _ => ?_
  split <;> rename_i h <;> simp [h]

theorem isFolder_iff : d.isFolder path ↔ ∃ x, d.place path = .ok x ∧ d.node? x = some .folder := by
  rw [← lookUp_eq_ok_iff, isFolder]
  split <;> rename_i h <;> simp_all

theorem isFile_iff : d.isFile path ↔ ∃ x content, d.place path = .ok x ∧ d.node? x = some (.file content) := by
  rw [exists_comm]
  simp only [← lookUp_eq_ok_iff, isFile]
  split <;> rename_i h <;> simp_all

theorem read_eq_ok_iff : d.read path = .ok content ↔ ∃ x, d.place path = .ok x ∧ d.node? x = some (.file content) := by
  rw [← lookUp_eq_ok_iff, read]
  split <;> rename_i h <;> simp [h]

/-- The names that nodes have in the folder at a place. -/
def namesIn (nodes : List (Place × Node)) (x : Place) : List String :=
  nodes.filterMap fun e => if e.1.dropLast = x then e.1.getLast? else none

theorem list_eq_ok_iff {names : List String} : d.list path = .ok names ↔
    ∃ x, d.place path = .ok x ∧ d.node? x = some .folder ∧
      (NameSet.empty.insertAll (namesIn d.nodes x)).members = names := by
  simp only [list, bind_eq_ok_iff]
  refine exists_congr fun x => and_congr_right fun _ => ?_
  split <;> rename_i hnode
  · simp [hnode]
  · simp [hnode]
  · simp [hnode, namesIn]

theorem exists_list_of_isFolder (h : d.isFolder path) : ∃ names, d.list path = .ok names := by
  obtain ⟨x, hx, hnode⟩ := isFolder_iff.mp h
  exact ⟨_, list_eq_ok_iff.mpr ⟨x, hx, hnode, rfl⟩⟩

theorem readText_eq_ok (hx : d.place path = .ok x) (hnode : d.node? x = some (.file (.text text))) :
    d.readText path = .ok text := by
  rw [readText, read_eq_ok_iff.mpr ⟨x, hx, hnode⟩]
  rfl

/-- A slot is where the path of a file leads to, if no folder stands there. -/
theorem fileSlot_eq_ok_iff : d.fileSlot path = .ok x ↔
    isNamed path ∧ withoutSlashes path = path ∧ d.place path = .ok x ∧ d.node? x ≠ some .folder := by
  rw [fileSlot]
  by_cases hnamed : isNamed path
  · rw [if_neg (by simp [hnamed]), bind_eq_ok_iff, and_iff_right hnamed]
    constructor
    · rintro ⟨y, hy, h⟩
      split at h
      · cases h
      · rename_i hsame
        rw [not_not] at hsame
        split at h
        · cases h
        · rename_i hfree
          cases h
          exact ⟨hsame, hsame ▸ hy, hfree⟩
    · rintro ⟨hsame, hx, hfree⟩
      refine ⟨x, hsame.symm ▸ hx, ?_⟩
      rw [if_neg (not_not.mpr hsame), if_neg hfree]
  · rw [if_pos (by simp [hnamed])]
    refine iff_of_false (fun h => ?_) fun h => hnamed h.1
    cases hplace : d.place path <;> rw [hplace] at h <;> cases h

theorem write_eq_ok_iff : d.write path text = .ok d' ↔
    d.isFolder (parent path) ∧ ∃ x, d.fileSlot path = .ok x ∧ d.put x (.file (.text text)) = d' := by
  rw [write, isFolder]
  split <;> rename_i hparent
  · simp [hparent]
  · simp [hparent]
  · rw [hparent]
    cases hslot : d.fileSlot path with
    | error reason => exact iff_of_false (fun h => nomatch h) fun ⟨_, _, h, _⟩ => nomatch h
    | ok x => simp

/-! ### A written file -/

theorem isBase_eq_false (hx : d.node? x ≠ some .folder) : isBase x = false := by
  rw [node?] at hx
  split at hx
  · exact absurd rfl hx
  · rename_i h
    exact Bool.eq_false_iff.mpr h

theorem find?_replace_self {nodes : List (Place × Node)} (node : Node) (h : nodes.any (·.1 = x)) :
    (nodes.map fun e => if e.1 = x then (x, node) else e).find? (·.1 = x) = some (x, node) := by
  induction nodes with
  | nil => cases h
  | cons e rest ih =>
    rw [List.map_cons]
    by_cases he : e.1 = x
    · rw [if_pos he, List.find?_cons_of_pos (by simp)]
    · rw [if_neg he, List.find?_cons_of_neg (by simpa using he)]
      exact ih (by simpa [he] using h)

theorem find?_replace_of_ne (nodes : List (Place × Node)) (node : Node) (h : y ≠ x) :
    (nodes.map fun e => if e.1 = x then (x, node) else e).find? (·.1 = y) = nodes.find? (·.1 = y) := by
  induction nodes with
  | nil => rfl
  | cons e rest ih =>
    rw [List.map_cons, List.find?_cons, List.find?_cons, ih]
    by_cases he : e.1 = x
    · rw [if_pos he, he, decide_eq_false h.symm]
    · rw [if_neg he]

theorem namesIn_replace (nodes : List (Place × Node)) (node : Node) :
    namesIn (nodes.map fun e => if e.1 = x then (x, node) else e) y = namesIn nodes y := by
  rw [namesIn, List.filterMap_map]
  refine List.filterMap_congr fun e _ => ?_
  rw [Function.comp_apply]
  split
  · rename_i he
    rw [he]
  · rfl

theorem namesIn_append (nodes : List (Place × Node)) (node : Node) :
    namesIn (nodes ++ [(x, node)]) y = namesIn nodes y ++ if x.dropLast = y then x.getLast?.toList else [] := by
  rw [namesIn, List.filterMap_append, ← namesIn]
  split <;> rename_i h
  · rcases hlast : x.getLast? with _ | name <;> simp [h, hlast]
  · simp [h]

theorem node?_put (hx : d.node? x ≠ some .folder) (node : Node) (y : Place) :
    (d.put x node).node? y = if y = x then some node else d.node? y := by
  have hbase := isBase_eq_false hx
  rcases eq_or_ne y x with rfl | hne
  · rw [if_pos rfl, node?, hbase, if_neg Bool.false_ne_true, put]
    split <;> rename_i hany
    · rw [find?_replace_self node hany, Option.map_some]
    · have hnone : d.nodes.find? (·.1 = y) = none :=
        List.find?_eq_none.mpr fun e he heq => hany (List.any_eq_true.mpr ⟨e, he, heq⟩)
      simp [List.find?_append, hnone]
  · rw [if_neg hne, node?, node?, put]
    split
    · rfl
    · split
      · rw [find?_replace_of_ne _ _ hne]
      · simp [List.find?_append, hne.symm]

/-! ### Folders stay -/

/-- The folders are the same. -/
def SameFolders (d d' : Files) : Prop := ∀ x, d'.node? x = some .folder ↔ d.node? x = some .folder

theorem SameFolders.refl (d : Files) : SameFolders d d := fun _ => Iff.rfl

theorem SameFolders.trans {d₁ d₂ d₃ : Files} (h₁₂ : SameFolders d₁ d₂) (h₂₃ : SameFolders d₂ d₃) : SameFolders d₁ d₃ :=
  fun x => (h₂₃ x).trans (h₁₂ x)

theorem sameFolders_put (hx : d.node? x ≠ some .folder) (content : Content) :
    SameFolders d (d.put x (.file content)) := by
  intro y
  rw [node?_put hx]
  split
  · rename_i heq
    exact iff_of_false (fun h => nomatch h) (heq ▸ hx)
  · exact Iff.rfl

theorem walk_ne_ok {c : String} {cs : List String} (h : d.node? x ≠ some .folder) : d.walk x (c :: cs) ≠ .ok y := by
  rw [walk]
  split
  · simp
  · simp
  · rename_i hfolder
    exact absurd hfolder h

namespace SameFolders

/-- A path goes through folders alone. -/
theorem walk_eq_ok_iff (h : SameFolders d d') (cs : List String) (x : Place) :
    d'.walk x cs = .ok y ↔ d.walk x cs = .ok y := by
  induction cs generalizing x with
  | nil => exact Iff.rfl
  | cons c cs ih =>
    by_cases hfolder : d.node? x = some .folder
    · rw [walk, walk, hfolder, (h x).mpr hfolder]
      simp only
      split
      · exact ih x
      · split
        · exact ih (above x)
        · split
          · exact Iff.rfl
          · exact ih (x ++ [c])
    · exact iff_of_false (walk_ne_ok fun hfolder' => hfolder ((h x).mp hfolder')) (walk_ne_ok hfolder)

theorem place_eq_ok_iff (h : SameFolders d d') : d'.place path = .ok x ↔ d.place path = .ok x := by
  rw [place, place]
  split
  · rfl
  · split
    · rfl
    · split
      · rfl
      · exact h.walk_eq_ok_iff _ _

theorem isFolder_eq (h : SameFolders d d') (path : String) : d'.isFolder path = d.isFolder path := by
  rw [Bool.eq_iff_iff, isFolder_iff, isFolder_iff]
  exact exists_congr fun x => and_congr h.place_eq_ok_iff (h x)

theorem fileSlot_eq_ok_iff (h : SameFolders d d') : d'.fileSlot path = .ok x ↔ d.fileSlot path = .ok x := by
  rw [Files.fileSlot_eq_ok_iff, Files.fileSlot_eq_ok_iff, h.place_eq_ok_iff, Ne, h x]

end SameFolders

section
variable (hx : d.node? x ≠ some .folder)
include hx

theorem isFile_put (h : d.isFile path) : (d.put x (.file content)).isFile path := by
  obtain ⟨y, content', hy, hnode⟩ := isFile_iff.mp h
  have hy := (sameFolders_put hx content).place_eq_ok_iff.mpr hy
  rw [isFile_iff]
  by_cases heq : y = x
  · exact ⟨y, content, hy, by rw [node?_put hx, if_pos heq]⟩
  · exact ⟨y, content', hy, by rw [node?_put hx, if_neg heq, hnode]⟩

theorem isFile_put_eq (hne : d.place path ≠ .ok x) : (d.put x (.file content)).isFile path = d.isFile path := by
  rw [Bool.eq_iff_iff, isFile_iff, isFile_iff]
  refine exists_congr fun y => exists_congr fun content' => ?_
  rw [(sameFolders_put hx content).place_eq_ok_iff]
  refine and_congr_right fun hy => ?_
  rw [node?_put hx, if_neg fun heq : y = x => hne (heq ▸ hy)]

/-- What other files hold is read as before. -/
theorem read_put (hne : d.place path ≠ .ok x) (h : d.isFile path) :
    (d.put x (.file content)).read path = d.read path := by
  obtain ⟨y, content', hy, hnode⟩ := isFile_iff.mp h
  have hy' := (sameFolders_put hx content).place_eq_ok_iff.mpr hy
  rw [read_eq_ok_iff.mpr ⟨y, hy, hnode⟩]
  exact read_eq_ok_iff.mpr ⟨y, hy', by rw [node?_put hx, if_neg fun heq : y = x => hne (heq ▸ hy), hnode]⟩

/-- A folder lists what it has listed before, and the new file if it is one of its own. -/
theorem list_put (content : Content) {names : List String} (h : d.list path = .ok names) :
    (d.put x (.file content)).list path = .ok names ∨ ∃ name, d.place path = .ok x.dropLast ∧ x.getLast? = some name ∧
      (d.put x (.file content)).list path = .ok (insertName name names) := by
  obtain ⟨y, hy, hnode, rfl⟩ := list_eq_ok_iff.mp h
  have hfolders := sameFolders_put hx content
  have hlist := list_eq_ok_iff.mpr ⟨y, hfolders.place_eq_ok_iff.mpr hy, (hfolders y).mpr hnode, rfl⟩
  rw [hlist, put]
  split
  · left
    rw [namesIn_replace]
  · rw [namesIn_append]
    split
    · rename_i hdrop
      rcases hlast : x.getLast? with _ | name
      · left
        rw [Option.toList_none, List.append_nil]
      · right
        refine ⟨name, hdrop ▸ hy, rfl, ?_⟩
        rw [Option.toList_some, NameSet.insertAll, List.foldl_append]
        rfl
    · left
      rw [List.append_nil]

end

end Files

/-! ### Folders of documentation -/

section
variable {ε α : Type} {f : String → Except ε (List α)}

theorem map_flatten_mapM_cons (x : String) (xs : List String) :
    ((x :: xs).mapM f).map List.flatten = f x >>= fun a => ((xs.mapM f).map List.flatten).map (a ++ ·) := by
  rw [List.mapM_cons]
  cases f x with
  | error e => rfl
  | ok a => cases xs.mapM f <;> rfl

/-- A name that gives nothing may be listed or not. -/
theorem map_flatten_mapM_insertName {name : String} (hname : f name = .ok []) (xs : List String) :
    ((insertName name xs).mapM f).map List.flatten = (xs.mapM f).map List.flatten := by
  have hcons : ∀ xs : List String, ((name :: xs).mapM f).map List.flatten = (xs.mapM f).map List.flatten := by
    intro xs
    rw [map_flatten_mapM_cons, hname, ok_bind]
    cases xs.mapM f <;> rfl
  induction xs with
  | nil => exact hcons []
  | cons x xs ih =>
    rw [insertName]
    split
    · exact hcons _
    · split
      · rfl
      · rw [map_flatten_mapM_cons, map_flatten_mapM_cons, ih]

end

namespace Docs
open Files
variable {d : Files} {folder : String} {x : Place} {content : Content}

/-- What a file in the folder documents, by its name. -/
def entriesOf (d : Files) (folder name : String) : Except Error (Entries String) :=
  match documented? name with
  | none => .ok []
  | some function => do
    let path := joinPath folder name
    if d.isFile path then return [(function, Text.trim (← d.readText path))] else return []

theorem readFolder_eq {names : List String} (h : d.list folder = .ok names) :
    readFolder d folder = ((names.mapM (entriesOf d folder)).map List.flatten).map Entries.ofList := by
  rw [readFolder, h]
  show (names.mapM (entriesOf d folder) >>= fun texts => pure (Entries.ofList texts.flatten)) = _
  cases names.mapM (entriesOf d folder) <;> rfl

/-- A file documents a function: it stands in the folder and has the name of one, or such a name in the folder leads
to it. -/
def Documents (d : Files) (folder : String) (x : Place) : Prop :=
  ∃ name, (documented? name).isSome ∧ (d.place folder = .ok x.dropLast ∧ x.getLast? = some name ∨
    ∃ names, d.list folder = .ok names ∧ name ∈ names ∧ d.place (joinPath folder name) = .ok x)

/-- A new name in the folder is that of a file which documents something, or gives nothing. -/
theorem entriesOf_eq_nil (hnot : ¬Documents d folder x) {name : String} (hplace : d.place folder = .ok x.dropLast)
    (hlast : x.getLast? = some name) (d' : Files) : entriesOf d' folder name = .ok [] := by
  rw [entriesOf]
  split
  · rfl
  · rename_i function hdocumented
    exact absurd ⟨name, by rw [hdocumented]; rfl, .inl ⟨hplace, hlast⟩⟩ hnot

section
variable (hx : d.node? x ≠ some .folder)
include hx

theorem entriesOf_put {names : List String} (hlist : d.list folder = .ok names) (hnot : ¬Documents d folder x)
    {name : String} (hname : name ∈ names) :
    entriesOf (d.put x (.file content)) folder name = entriesOf d folder name := by
  rw [entriesOf, entriesOf]
  split
  · rfl
  · rename_i function hdocumented
    have hne : d.place (joinPath folder name) ≠ .ok x := fun hplace =>
      hnot ⟨name, by rw [hdocumented]; rfl, .inr ⟨names, hlist, hname, hplace⟩⟩
    simp only [isFile_put_eq hx hne]
    split
    · rename_i hfile
      rw [readText, readText, read_put hx hne hfile]
    · rfl

/-- A folder reads as before, if no file of documentation was written. -/
theorem readFolder_put (hfolder : d.isFolder folder) (hnot : ¬Documents d folder x) :
    readFolder (d.put x (.file content)) folder = readFolder d folder := by
  obtain ⟨names, hlist⟩ := exists_list_of_isFolder hfolder
  have hsame : names.mapM (entriesOf (d.put x (.file content)) folder) = names.mapM (entriesOf d folder) :=
    mapM_congr fun name hname => entriesOf_put hx hlist hnot hname
  rw [readFolder_eq hlist]
  rcases list_put hx content hlist with hput | ⟨name, hplace, hlast, hput⟩
  · rw [readFolder_eq hput, hsame]
  · rw [readFolder_eq hput, map_flatten_mapM_insertName (entriesOf_eq_nil hnot hplace hlast _), hsame]

theorem documents_put (hfolder : d.isFolder folder) (hnot : ¬Documents d folder x) {y : Place}
    (h : Documents (d.put x (.file content)) folder y) : Documents d folder y := by
  obtain ⟨names, hlist⟩ := exists_list_of_isFolder hfolder
  have hfolders := sameFolders_put hx content
  obtain ⟨name, hdocumented, ⟨hplace, hlast⟩ | ⟨names', hlist', hname, hplace⟩⟩ := h
  · exact ⟨name, hdocumented, .inl ⟨hfolders.place_eq_ok_iff.mp hplace, hlast⟩⟩
  · have hplace := hfolders.place_eq_ok_iff.mp hplace
    rcases list_put hx content hlist with hput | ⟨new, hplace', hlast, hput⟩
    · cases hput.symm.trans hlist'
      exact ⟨name, hdocumented, .inr ⟨names, hlist, hname, hplace⟩⟩
    · cases hput.symm.trans hlist'
      rcases mem_insertName.mp hname with rfl | hname
      · exact absurd ⟨name, hdocumented, .inl ⟨hplace', hlast⟩⟩ hnot
      · exact ⟨name, hdocumented, .inr ⟨names, hlist, hname, hplace⟩⟩

end
end Docs
end Bindery
