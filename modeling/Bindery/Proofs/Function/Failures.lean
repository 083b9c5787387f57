import Bindery.Catalog
import Bindery.Function.Memo
import Bindery.Proofs.Function.Entry

/-! # Updates that fail

An update of a function fails at the first entry in which a control key has a value of a shape that it does not take
(`Misshapen`). The entries before that one have been taken in, and what is merged has not, as if the source had ended
there and had nothing to merge. An update of a type fails for its flags alone, and leaves the type as it was. Both are
said of all sources in `updates_of_source`. -/

namespace Bindery
open Attr (Value Tree)

namespace Function

/-- A control key with a value of a shape that it does not take. -/
inductive Misshapen : String → Value → Prop
  | ignore (first : String × Value) (others : List (String × Value)) : Misshapen "IGNORE" (.map (first :: others))
  | flags (first : String × Value) (others : List (String × Value)) : Misshapen "FLAGS" (.map (first :: others))
  | internal {v : Value} (h : ∀ s, v ≠ .text s) : Misshapen "INTERNAL" v
  | returns_list (items : List String) : Misshapen "RETURN" (.list items)
  | returns_map (first : String × Value) (others : List (String × Value)) : Misshapen "RETURN" (.map (first :: others))

/-- What a message says a control key must be. -/
def wanted (key : String) : String :=
  if key = "INTERNAL" then "a boolean" else if key = "RETURN" then "a type name" else "a string or a list"

/-- The failure of a control key with a value of a shape that it does not take. -/
def refusal (owner key : String) (v : Value) : Error :=
  .invalidDescriptor owner s!"{key} must be {wanted key}, found a {v.kind}"

variable {f g : Function} {key : String} {v : Value} {es : List (String × Value)}

/-! ### One entry -/

theorem takeEntry_of_misshapen (h : Misshapen key v) (f : Function) :
    f.takeEntry key v = .error (refusal f.name key v) := by
  cases h with
  | ignore | flags | returns_list | returns_map => rfl
  | internal h =>
    cases v with
    | text s => exact absurd rfl (h s)
    | list | map => rfl

theorem listItems_of_not_misshapen (hkey : key = "IGNORE" ∨ key = "FLAGS") (h : ¬Misshapen key v) (owner : String) :
    ∃ items, listItems owner key v = .ok items := by
  rcases v with s | items | _ | ⟨first, others⟩
  · exact ⟨_, rfl⟩
  · exact ⟨_, rfl⟩
  · exact ⟨_, rfl⟩
  · rcases hkey with rfl | rfl
    · exact absurd (.ignore first others) h
    · exact absurd (.flags first others) h

theorem exists_takeEntry (h : ¬Misshapen key v) (f : Function) : ∃ g, f.takeEntry key v = .ok g := by
  have hmeans := KeyRole.means_ofKey key
  unfold takeEntry
  split <;> rename_i hrole <;> rw [hrole] at hmeans
  · exact ⟨_, rfl⟩
  · obtain ⟨items, hitems⟩ := listItems_of_not_misshapen (Or.inl hmeans) h f.name
    exact ⟨_, by rw [hitems]; rfl⟩
  · obtain ⟨items, hitems⟩ := listItems_of_not_misshapen (Or.inr hmeans) h f.name
    exact ⟨_, by rw [hitems]; rfl⟩
  · obtain rfl := hmeans
    cases v with
    | text s => exact ⟨_, rfl⟩
    | list | map => exact absurd (.internal (by simp)) h
  · obtain rfl := hmeans
    rcases v with s | items | _ | ⟨first, others⟩
    · exact ⟨_, rfl⟩
    · exact absurd (.returns_list items) h
    · exact ⟨_, rfl⟩
    · exact absurd (.returns_map first others) h
  · exact ⟨f, rfl⟩

/-! ### Entries up to a failure -/

/-- What a function becomes that takes in entries one after the other. -/
inductive TakesAll : Function → List (String × Value) → Function → Prop
  | nil (f : Function) : TakesAll f [] f
  | cons {f f' g : Function} {key : String} {v : Value} {rest : List (String × Value)} (h : Takes f key v f')
      (hrest : TakesAll f' rest g) : TakesAll f ((key, v) :: rest) g

theorem TakesAll.name (h : TakesAll f es g) : g.name = f.name := by
  induction h with
  | nil => rfl
  | cons h _ ih => rw [ih, h.name_strict.1]

theorem TakesAll.attr? (h : TakesAll f es g) (hkey : key ∉ listKeys) : g.attr? key = f.attr? key := by
  induction h with
  | nil => rfl
  | @cons f f' g other v rest h _ ih =>
    rw [ih, Function.attr?, Function.attr?]
    rcases h.attrs with ⟨hlist, hattrs⟩ | ⟨-, hattrs⟩
    · have hne : other ≠ key := fun heq => hkey (heq ▸ hlist)
      rw [hattrs, Entries.get?_set_ne v hne]
    · rw [hattrs]

/-- The entries that are taken in at once, and not merged at the end. -/
def immediate (es : Tree) : Tree := es.filter fun e => e.1 ∈ listKeys ∨ e.1 ∈ controlKeys

theorem mergedEntries_immediate (es : Tree) : mergedEntries (immediate es) = [] := by
  rw [mergedEntries, immediate, List.filter_filter, List.filter_eq_nil_iff]
  intro e _
  simp only [KeyRole.ofKey_eq_merged_iff, Bool.and_eq_true, decide_eq_true_eq]
  exact fun ⟨⟨hlist, hcontrol⟩, himmediate⟩ => himmediate.elim hlist hcontrol

namespace Memo
variable {m m' : Memo}

theorem takeEntries_fails_iff :
    (∃ e, (m.takeEntries es).2 = .error e) ↔ ∃ e ∈ es, Misshapen e.1 e.2 := by
  induction es generalizing m with
  | nil => simp [takeEntries]
  | cons e rest ih =>
    obtain ⟨key, v⟩ := e
    simp only [List.mem_cons, exists_eq_or_imp, takeEntries]
    by_cases h : Misshapen key v
    · rw [takeEntry_of_misshapen h]
      exact iff_of_true ⟨_, rfl⟩ (Or.inl h)
    · obtain ⟨g, hg⟩ := exists_takeEntry h m.function
      rw [hg, or_iff_right h]
      exact ih

theorem exists_takeEntries (h : ∀ e ∈ es, ¬Misshapen e.1 e.2) (m : Memo) : ∃ m', m.takeEntries es = (m', .ok ()) := by
  rcases hrun : m.takeEntries es with ⟨m', e | _⟩
  · obtain ⟨e', hmem, he'⟩ := takeEntries_fails_iff.mp ⟨e, congrArg Prod.snd hrun⟩
    exact absurd he' (h e' hmem)
  · exact ⟨m', rfl⟩

theorem takeEntries_cons_ok {e : String × Value} (h : m.takeEntries (e :: es) = (m', .ok ())) :
    ∃ g, m.function.takeEntry e.1 e.2 = .ok g ∧
      Memo.takeEntries { m.forgetFor e.1 with function := g } es = (m', .ok ()) := by
  obtain ⟨key, v⟩ := e
  rw [takeEntries] at h
  split at h
  · rename_i g hg
    exact ⟨g, hg, h⟩
  · cases h

theorem takesAll_of_takeEntries (h : m.takeEntries es = (m', .ok ())) : TakesAll m.function es m'.function := by
  induction es generalizing m with
  | nil =>
    cases h
    exact .nil _
  | cons e rest ih =>
    obtain ⟨g, hg, hrest⟩ := takeEntries_cons_ok h
    exact .cons (takes_of_takeEntry hg) (ih hrest)

theorem takeEntries_append (h : m.takeEntries es = (m', .ok ())) (rest : List (String × Value)) :
    m.takeEntries (es ++ rest) = m'.takeEntries rest := by
  induction es generalizing m with
  | nil =>
    cases h
    rfl
  | cons e es ih =>
    obtain ⟨g, hg, hes⟩ := takeEntries_cons_ok h
    rw [List.cons_append, takeEntries, hg]
    exact ih hes

theorem takeEntries_immediate (h : m.takeEntries es = (m', .ok ())) : m.takeEntries (immediate es) = (m', .ok ()) := by
  induction es generalizing m with
  | nil => exact h
  | cons e rest ih =>
    obtain ⟨key, v⟩ := e
    obtain ⟨g, hg, hrest⟩ := takeEntries_cons_ok h
    by_cases hkey : key ∈ listKeys ∨ key ∈ controlKeys
    · rw [immediate, List.filter_cons_of_pos (by simpa using hkey), takeEntries, hg]
      exact ih hrest
    · -- An entry that is merged at the end changes nothing before, and nothing is forgotten for it.
      rw [immediate, List.filter_cons_of_neg (by simpa using hkey)]
      have hmerged : KeyRole.ofKey key = .merged := KeyRole.ofKey_eq_merged_iff.mpr (not_or.mp hkey)
      have hforget : m.forgetFor key = m := by
        have hlist : ¬(key = orderKey ∨ key ∈ paramKeys) := fun hmem => hkey (Or.inl (List.mem_cons.mpr hmem))
        rw [forgetFor, if_neg fun hmem => hlist (Or.inr hmem), if_neg fun heq => hlist (Or.inl heq)]
      rw [takeEntry, hmerged] at hg
      cases hg
      rw [hforget] at hrest
      exact ih hrest

/-- What an update comes to that fails at an entry: the failure is the one of that entry, and the entries before it
have been taken in. -/
structure FailsAt (m : Memo) (attrs before : Tree) (key : String) (v : Value) : Prop where
  error : (m.update attrs).2 = .error (refusal m.function.name key v)
  taken : TakesAll m.function before (m.update attrs).1.function
  /-- Nothing is merged. -/
  kept : ∀ other, other ∉ listKeys → (m.update attrs).1.function.attr? other = m.function.attr? other
  /-- This is also what a source comes to that has no other entries than those. -/
  state : m.update (immediate before) = ((m.update attrs).1, .ok ())

/-- What an update comes to. -/
structure Updates (m : Memo) (attrs : Tree) : Prop where
  fails_iff : (∃ e, (m.update attrs).2 = .error e) ↔ ∃ e ∈ attrs, Misshapen e.1 e.2
  fails_at : ∀ before key v after, attrs = before ++ (key, v) :: after → (∀ e ∈ before, ¬Misshapen e.1 e.2) →
    Misshapen key v → m.FailsAt attrs before key v

theorem update_fails_iff (m : Memo) (attrs : Tree) :
    (∃ e, (m.update attrs).2 = .error e) ↔ ∃ e ∈ attrs, Misshapen e.1 e.2 := by
  rw [← takeEntries_fails_iff (m := m), update]
  rcases m.takeEntries attrs with ⟨m', e | _⟩
  · exact Iff.rfl
  · exact iff_of_false nofun nofun

theorem failsAt_of_misshapen {before after : Tree} (hbefore : ∀ e ∈ before, ¬Misshapen e.1 e.2) (h : Misshapen key v)
    (m : Memo) : m.FailsAt (before ++ (key, v) :: after) before key v := by
  obtain ⟨m', hrun⟩ := exists_takeEntries hbefore m
  have htaken := takesAll_of_takeEntries hrun
  have hupdate : m.update (before ++ (key, v) :: after) = (m', .error (refusal m.function.name key v)) := by
    rw [update, takeEntries_append hrun, takeEntries, takeEntry_of_misshapen h, htaken.name]
  constructor <;> rw [hupdate]
  case taken => exact htaken
  case kept => exact fun other hother => htaken.attr? hother
  case state =>
    rw [update, takeEntries_immediate hrun]
    simp only [mergedEntries_immediate, Attr.merge]

theorem updates (m : Memo) (attrs : Tree) : m.Updates attrs where
  fails_iff := m.update_fails_iff attrs
  fails_at before key v after hattrs hbefore h := by
    rw [hattrs]
    exact failsAt_of_misshapen hbefore h m

end Memo
end Function

/-! ### Types -/

namespace TypeInfo
variable {t : TypeInfo} {attrs : Tree}

/-- What an update of a type comes to. -/
structure Updates (t : TypeInfo) (attrs : Tree) : Prop where
  fails_iff : (∃ e, t.update attrs = .error e) ↔
    ∃ first others, Entries.get? attrs "FLAGS" = some (.map (first :: others))
  error : ∀ first others, Entries.get? attrs "FLAGS" = some (.map (first :: others)) →
    t.update attrs = .error (Function.refusal t.name "FLAGS" (.map (first :: others)))
  /-- A catalog keeps the type as it was. -/
  kept : ∀ (c : Catalog) (name : String), (c.type? name).getD (.new name) = t →
    ∀ e, t.update attrs = .error e → (c.addType name (.map attrs)).1.type? name = some t

theorem update_eq_error {first : String × Value} {others : List (String × Value)}
    (h : Entries.get? attrs "FLAGS" = some (.map (first :: others))) :
    t.update attrs = .error (Function.refusal t.name "FLAGS" (.map (first :: others))) := by
  rw [update, h]
  rfl

theorem exists_of_update_eq_error {e : Error} (h : t.update attrs = .error e) :
    ∃ first others, Entries.get? attrs "FLAGS" = some (.map (first :: others)) := by
  rw [update] at h
  rcases hv : Entries.get? attrs "FLAGS" with _ | s | items | _ | ⟨first, others⟩ <;> rw [hv] at h
  · cases h
  · cases h
  · cases h
  · cases h
  · exact ⟨first, others, rfl⟩

theorem updates (t : TypeInfo) (attrs : Tree) : t.Updates attrs where
  fails_iff := ⟨fun ⟨_, he⟩ => exists_of_update_eq_error he, fun ⟨_, _, h⟩ => ⟨_, update_eq_error h⟩⟩
  error _ _ h := update_eq_error h
  kept c name ht e he := by
    simp only [Catalog.addType, Value.map?, ht, he]
    exact Entries.get?_set_self c.types name t

end TypeInfo

end Bindery
