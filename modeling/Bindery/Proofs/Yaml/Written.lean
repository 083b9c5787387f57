import Bindery.Proofs.Outline.RoundTrip
import Bindery.Proofs.Yaml.Collected
import Bindery.Source

/-! # Reading YAML that was written

The value `ofAttr` that stands for an attribute becomes the attribute again, with the names of every mapping in their
order. So a written tree is read back if the text is that of its value, which is for the syntax of YAML to say and not
for attributes; and where a tree can be written as an outline as well, both texts describe it. -/

namespace Bindery
namespace Yaml
namespace Value
variable {name : String} {v : Value} {s : String}

/-! ### The value that stands for an attribute -/

/-- The text of a string, if it has no tag. -/
def string? : Value → Option String
  | .string s => some s
  | .null | .bool _ | .number _ | .sequence _ | .mapping _ | .tagged _ _ => none

theorem string?_eq_some_iff : v.string? = some s ↔ v = .string s := by
  cases v <;> simp [string?]

theorem map_string?_eq_iff {items : List Value} {texts : List String} :
    items.map string? = texts.map some ↔ items = texts.map .string := by
  induction items generalizing texts with
  | nil => cases texts <;> simp
  | cons v rest ih =>
    cases texts with
    | nil => simp
    | cons s texts => simp [string?_eq_some_iff, ih]

mutual
/-- Whether a value is the one that stands for an attribute. -/
def standsFor : Value → Attr.Value → Bool
  | .string s, .text t => s == t
  | .sequence items, .list texts => items.map string? == texts.map some
  | .mapping entries, .map tree => standForTree entries tree
  | _, _ => false
termination_by structural v => v
/-- Whether entries are those of the mapping that stands for a tree. -/
def standForTree : List (Value × Value) → List (String × Attr.Value) → Bool
  | [], [] => true
  | (k, v) :: rest, (name, a) :: tree => k.string? == some name && v.standsFor a && standForTree rest tree
  | _, _ => false
termination_by structural es => es
end

mutual
theorem standsFor_iff : ∀ {v : Value} {a : Attr.Value}, v.standsFor a = true ↔ v = ofAttr a
  | .string _, a => by cases a <;> simp [standsFor, ofAttr]
  | .sequence _, a => by cases a <;> simp [standsFor, ofAttr, map_string?_eq_iff]
  | .mapping _, a => by cases a <;> simp [standsFor, ofAttr, standForTree_iff]
  | .null, a | .bool _, a | .number _, a | .tagged _ _, a => by cases a <;> simp [standsFor, ofAttr]
theorem standForTree_iff : ∀ {entries : List (Value × Value)} {tree : List (String × Attr.Value)},
    standForTree entries tree = true ↔ entries = ofTree tree
  | [], [] | [], _ :: _ | _ :: _, [] => by simp [standForTree, ofTree]
  | (_, _) :: _, (_, _) :: _ => by
    simp [standForTree, ofTree, string?_eq_some_iff, standsFor_iff, standForTree_iff, and_assoc]
end

/-! ### What it becomes -/

theorem itemTexts_map_string (name : String) (items : List String) :
    itemTexts name (items.map .string) = .ok items := by
  induction items with
  | nil => rfl
  | cons s rest ih =>
    rw [List.map_cons, itemTexts, scalar?]
    exact map_eq_ok_iff.mpr ⟨rest, ih, rfl⟩

mutual
/-- An attribute without repeated names is what its value becomes. -/
theorem toAttr_ofAttr : ∀ {v : Attr.Value}, v.isDistinct = true → toAttr name (ofAttr v) = .ok v
  | .text _, _ => rfl
  | .list items, _ => by
    rw [ofAttr, toAttr, itemTexts_map_string]
    rfl
  | .map tree, h => by
    rw [ofAttr, toAttr_mapping_eq_ok_iff]
    refine ⟨tree, forall₂_ofTree (by rwa [Attr.Value.isDistinct] at h), ?_⟩
    rw [Entries.ofList_of_nodup (Attr.Value.nodup_of_isDistinct h)]
theorem forall₂_ofTree : ∀ {tree : List (String × Attr.Value)}, Attr.isDistinct tree = true →
    List.Forall₂ (fun e d => toEntry name e = .ok d) (ofTree tree) tree
  | [], _ => .nil
  | (_, _) :: _, h => by
    obtain ⟨-, hv, hrest⟩ := Attr.isDistinct_cons.mp h
    exact .cons (toEntry_eq_ok_iff.mpr ⟨rfl, toAttr_ofAttr hv⟩) (forall₂_ofTree hrest)
end

end Value

/-- The text that is written of a tree has the value of the tree. -/
def WritesValue (tree : Attr.Tree) : Prop := Value.ofText? (write tree) = some (.ofAttr (.map tree))

instance : DecidablePred WritesValue := fun tree =>
  decidable_of_iff ((Value.ofText? (write tree)).any (·.standsFor (.map tree)) = true) (by
    rw [WritesValue]
    cases Value.ofText? (write tree) <;> simp [Value.standsFor_iff])

theorem read_of_writesValue {tree : Attr.Tree} (hd : Attr.isDistinct tree = true) (h : WritesValue tree)
    (name : String) : read name (write tree) = .ok tree := by
  rw [WritesValue] at h
  simp only [read, h]
  rw [Value.tree, Value.toAttr_ofAttr (by rwa [Attr.Value.isDistinct])]

end Yaml

/-- A tree without lists is read back in each format. -/
theorem Format.read_of_write {tree : Attr.Tree} (hd : Attr.isDistinct tree = true) (hl : Attr.isListFree tree = true)
    (hyaml : Yaml.WritesValue tree) {format : Format} {text : String} (hw : format.write tree = .ok text)
    (name : String) : format.read name text = .ok tree := by
  cases format with
  | outline =>
    rw [write] at hw
    have hread := Outline.read_of_write hd hw
    rw [Outline.plain_of_isListFree hl, Outline.read, Outline.scan_write hw] at hread
    rw [read, Outline.readLines, Outline.scanLines_write name hw, hread]
  | yaml =>
    rw [write, Except.ok.injEq] at hw
    rw [read, ← hw]
    exact Yaml.read_of_writesValue hd hyaml name

namespace Yaml

/-- Values that stand for attributes become these attributes, and trees are read back from what is written of them:
from YAML where the text has the value of the tree, and where they have no lists from outlines in the same way. -/
theorem reads_back (name : String) :
    (∀ v : Attr.Value, v.isDistinct = true → Value.toAttr name (.ofAttr v) = .ok v) ∧
      ∀ tree : Attr.Tree, Attr.isDistinct tree = true → WritesValue tree →
        read name (write tree) = .ok tree ∧
        (Attr.isListFree tree = true → ∀ (format : Format) (text : String), format.write tree = .ok text →
          format.read name text = .ok tree) :=
  ⟨fun _ hv => Value.toAttr_ofAttr hv, fun _ hd h =>
    ⟨read_of_writesValue hd h name, fun hl _ _ hw => Format.read_of_write hd hl h hw name⟩⟩

theorem reads_back_quoted :
    Value.toAttr "f.yaml" (.ofAttr (.list ["1", ""])) = .ok (.list ["1", ""]) ∧
      WritesValue [("f", .map [("RETURN", .text "true"), ("DEPS", .map [])])] ∧
      read "f.yaml" (write [("f", .map [("RETURN", .text "true"), ("DEPS", .map [])])]) =
        .ok [("f", .map [("RETURN", .text "true"), ("DEPS", .map [])])] ∧
      Format.outline.read "f.yaml" "f:\n    RETURN: true\n    DEPS:\n" =
        .ok [("f", .map [("RETURN", .text "true"), ("DEPS", .map [])])] := by
  have hyaml : WritesValue [("f", .map [("RETURN", .text "true"), ("DEPS", .map [])])] := by decide +kernel
  have houtline : Format.outline.write [("f", .map [("RETURN", .text "true"), ("DEPS", .map [])])] =
      .ok "f:\n    RETURN: true\n    DEPS:\n" := by decide +kernel
  obtain ⟨hvalue, htree⟩ := reads_back "f.yaml"
  obtain ⟨hread, hformat⟩ := htree _ (by decide) hyaml
  exact ⟨hvalue _ (by decide), hyaml, hread, hformat (by decide) .outline _ houtline⟩

end Yaml
end Bindery
