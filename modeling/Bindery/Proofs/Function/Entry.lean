import Bindery.Function.Basic

/-! # What an entry does to a function

The ways in which a function takes in an entry of a source (`Takes`): one for each role of a key, and for a
return type also two that change nothing. -/

namespace Bindery.Function
open Attr (Value Tree)

/-- The keys of which each source replaces the value. -/
def listKeys : List String := orderKey :: paramKeys

/-- The keys that control a description and are not kept as attributes. -/
def controlKeys : List String := ["IGNORE", "FLAGS", "INTERNAL", "RETURN"]

/-- What a role says of the keys that have it. -/
def KeyRole.Means (key : String) : KeyRole → Prop
  | .list => key ∈ listKeys
  | .ignore => key = "IGNORE"
  | .flags => key = "FLAGS"
  | .internal => key = "INTERNAL"
  | .returns => key = "RETURN"
  | .merged => key ∉ listKeys ∧ key ∉ controlKeys

theorem KeyRole.means_ofKey (key : String) : (KeyRole.ofKey key).Means key := by
  unfold KeyRole.ofKey
  repeat' split
  all_goals simp_all [KeyRole.Means, listKeys, controlKeys, or_comm]

theorem KeyRole.ofKey_eq_merged_iff {key : String} :
    KeyRole.ofKey key = .merged ↔ key ∉ listKeys ∧ key ∉ controlKeys := by
  refine ⟨fun h => by have := means_ofKey key; rwa [h] at this, fun h => ?_⟩
  have := means_ofKey key
  cases hrole : KeyRole.ofKey key <;> rw [hrole] at this <;> simp_all [KeyRole.Means, controlKeys]

variable {f g : Function} {key : String} {v : Value}

/-- What a function becomes that takes in an entry. -/
inductive Takes (f : Function) : String → Value → Function → Prop
  | list {key : String} (v : Value) (h : key ∈ listKeys) : Takes f key v { f with attrs := Entries.set f.attrs key v }
  | ignore {v : Value} {items : List String} (h : v.items? = some items) :
      Takes f "IGNORE" v { f with ignoredBy := f.ignoredBy.insertAll items }
  | flags {v : Value} {items : List String} (h : v.items? = some items) :
      Takes f "FLAGS" v { f with flags := f.flags.insertAll (items.map Text.lower) }
  | internal_set {s : String} (h : isYes (Text.asciiLower (Text.trim s)) = true) :
      Takes f "INTERNAL" (.text s) { f with flags := f.flags.insert internalFlag }
  | internal_clear {s : String} (h : isYes (Text.asciiLower (Text.trim s)) = false) :
      Takes f "INTERNAL" (.text s) { f with flags := f.flags.erase internalFlag }
  | returns {s : String} (h : Text.trim s ≠ "") : Takes f "RETURN" (.text s) { f with returnType := Text.trim s }
  | returns_blank {s : String} (h : Text.trim s = "") : Takes f "RETURN" (.text s) f
  | returns_empty : Takes f "RETURN" (.map []) f
  | merged {key : String} (v : Value) (hlist : key ∉ listKeys) (hcontrol : key ∉ controlKeys) : Takes f key v f

theorem listItems_map_eq_ok {owner : String} {α : Type} {k : List String → α} {a : α}
    (h : (listItems owner key v).map k = .ok a) : ∃ items, v.items? = some items ∧ a = k items := by
  unfold listItems at h
  split at h
  · rename_i items hitems
    exact ⟨items, hitems, (Except.ok.inj h).symm⟩
  · cases h

theorem takes_of_takeEntry (h : f.takeEntry key v = .ok g) : Takes f key v g := by
  have hmeans := KeyRole.means_ofKey key
  unfold takeEntry at h
  split at h <;> rename_i hrole <;> rw [hrole] at hmeans
  · cases h
    exact .list v hmeans
  · obtain rfl := hmeans
    obtain ⟨items, hitems, rfl⟩ := listItems_map_eq_ok h
    exact .ignore hitems
  · obtain rfl := hmeans
    obtain ⟨items, hitems, rfl⟩ := listItems_map_eq_ok h
    exact .flags hitems
  · obtain rfl := hmeans
    unfold setInternal at h
    cases v with
    | text s =>
      simp only [Value.text?] at h
      split at h <;> rename_i hyes <;> cases h
      · exact .internal_set hyes
      · exact .internal_clear (by simpa using hyes)
    | list items => cases h
    | map entries => cases h
  · obtain rfl := hmeans
    unfold setReturnType at h
    split at h
    · split at h <;> rename_i hblank <;> cases h
      · exact .returns_blank hblank
      · exact .returns hblank
    · cases h
      exact .returns_empty
    · cases h
  · cases h
    exact .merged v hmeans.1 hmeans.2

/-! ### What an entry leaves alone -/

theorem ne_of_listKeys {other : String} (hkey : key ∈ listKeys) (hother : other ∈ controlKeys) : key ≠ other :=
  (by decide : ∀ a ∈ listKeys, ∀ b ∈ controlKeys, a ≠ b) key hkey other hother

theorem ne_of_not_mem_controlKeys {other : String} (hkey : key ∉ controlKeys) (hother : other ∈ controlKeys) :
    key ≠ other :=
  fun heq => hkey (heq ▸ hother)

/-- An entry replaces its list or leaves all attributes as they are. -/
theorem Takes.attrs (h : Takes f key v g) :
    key ∈ listKeys ∧ g.attrs = Entries.set f.attrs key v ∨ key ∉ listKeys ∧ g.attrs = f.attrs := by
  cases h with
  | list _ hkey => exact Or.inl ⟨hkey, rfl⟩
  | merged _ hlist _ => exact Or.inr ⟨hlist, rfl⟩
  | ignore | flags | internal_set | internal_clear | returns | returns_blank | returns_empty =>
    exact Or.inr ⟨by decide, rfl⟩

theorem Takes.name_strict (h : Takes f key v g) : g.name = f.name ∧ g.strict = f.strict := by
  cases h <;> exact ⟨rfl, rfl⟩

theorem takeEntries_name (f : Function) (entries : List (String × Value)) :
    (f.takeEntries entries).1.name = f.name := by
  induction entries generalizing f with
  | nil => rfl
  | cons e rest ih =>
    obtain ⟨key, v⟩ := e
    rw [takeEntries]
    split
    · rename_i g hg
      rw [ih g, (takes_of_takeEntry hg).name_strict.1]
    · rfl

theorem update_name (f : Function) (attrs : Tree) : (f.update attrs).1.name = f.name := by
  have hname := takeEntries_name f attrs
  rw [update]
  split <;> rename_i h <;> rw [h] at hname <;> exact hname

end Bindery.Function
