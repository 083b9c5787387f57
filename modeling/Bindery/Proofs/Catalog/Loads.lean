import Bindery.Catalog
import Bindery.Proofs.Function.Entry

/-! # Catalogs after loads

Functions and types are two kinds of things that entries mention by name. After any loads, failing ones
included, the entries of a kind account for the mentions in the sources of that kind (`Accounts`): each name is
there once, where it was first mentioned, and its thing has taken in its own mentions and no others. A load that
fails has taken in the entries before the failing one (`Outcome`). Both are said of all loads in `loaded_run`. -/

namespace Bindery.Catalog
open Attr (Value Tree)

/-- A kind of things that entries describe. -/
structure Kind (α : Type) where
  /-- A thing of which nothing is known yet. -/
  new : String → α
  update : α → Tree → α × Except Error Unit

/-- Functions, which are strict or not. -/
def Kind.function (strict : Bool) : Kind Function := ⟨(.new · strict), Function.update⟩

/-- Types; an update that fails leaves a type as it was. -/
def Kind.type : Kind TypeInfo where
  new := .new
  update t attrs :=
    match t.update attrs with
    | .ok t => (t, .ok ())
    | .error e => (t, .error e)

/-- Attributes that are said of a name. -/
abbrev Mention := String × Tree

/-- A load of a source. -/
inductive Load where
  | functions (source : Tree)
  | types (source : Tree)

/-- The sources that are loaded as functions. -/
def functionSources (loads : List Load) : List Tree :=
  loads.filterMap fun | .functions source => some source | .types _ => none

/-- The sources that are loaded as types. -/
def typeSources (loads : List Load) : List Tree :=
  loads.filterMap fun | .functions _ => none | .types source => some source

/-- Takes in a source. -/
def take (c : Catalog) : Load → Catalog × Except Error Unit
  | .functions source => c.loadFunctions source
  | .types source => c.loadTypes source

/-- Takes in sources one after the other, whether they fail or not. -/
def run (c : Catalog) (loads : List Load) : Catalog := loads.foldl (fun c load => (c.take load).1) c

namespace Kind
variable {α : Type} (k : Kind α)

/-! ### Mentions -/

/-- The thing that the mentions of its name describe. -/
def thing (ms : List Mention) (name : String) : α :=
  ((ms.filter (·.1 = name)).map (·.2)).foldl (fun x attrs => (k.update x attrs).1) (k.new name)

/-- Adds the mentions of a source up to the first failure. An entry that is no mapping mentions nothing; one of
which only the update fails is a mention. -/
def mention (ms : List Mention) : Tree → List Mention
  | [] => ms
  | (name, v) :: rest =>
    match v.map? with
    | none => ms
    | some attrs =>
      match (k.update (k.thing ms name) attrs).2 with
      | .ok () => mention (ms ++ [(name, attrs)]) rest
      | .error _ => ms ++ [(name, attrs)]

/-- The mentions of sources. -/
def mentions (sources : List Tree) : List Mention := sources.foldl k.mention []

/-- Entries that account for mentions: a name is listed once, in order of first mention, and its thing has taken
in the mentions of the name. -/
structure Accounts (ms : List Mention) (t : Entries α) : Prop where
  names : Entries.names t = (ms.map (·.1)).eraseDups
  things : ∀ name ∈ ms.map (·.1), Entries.get? t name = some (k.thing ms name)

/-! ### One load -/

/-- Takes in the attributes of a name. -/
def updated (t : Entries α) (name : String) (attrs : Tree) : Entries α × Except Error Unit :=
  let (x, result) := k.update ((Entries.get? t name).getD (k.new name)) attrs
  (Entries.set t name x, result)

/-- Takes in entries up to the first failure. -/
def load (t : Entries α) : Tree → Entries α × Except Error Unit
  | [] => (t, .ok ())
  | (name, v) :: rest =>
    match v.map? with
    | none => (t, .error (shapeless name v))
    | some attrs =>
      match k.updated t name attrs with
      | (t, .ok ()) => load t rest
      | (t, .error e) => (t, .error e)

/-- What entries become that take in a source of which every entry is accepted. -/
inductive TakesAll : Entries α → Tree → Entries α → Prop
  | nil (t : Entries α) : TakesAll t [] t
  | cons {t t₁ t' : Entries α} {name : String} {v : Value} {attrs : Tree} {rest : Tree} (hv : v.map? = some attrs)
      (hupdate : k.updated t name attrs = (t₁, .ok ())) (hrest : TakesAll t₁ rest t') : TakesAll t ((name, v) :: rest) t'

/-- What an entry that fails makes of entries: nothing if it is no mapping, and otherwise what the failing update
itself does to the thing of that name, which is there afterwards in any case. -/
inductive Fails (t : Entries α) (name : String) : Value → Entries α → Error → Prop
  | shapeless {v : Value} (hv : v.map? = none) : Fails t name v t (shapeless name v)
  | update {v : Value} {attrs : Tree} {t' : Entries α} {e : Error} (hv : v.map? = some attrs)
      (hupdate : k.updated t name attrs = (t', .error e)) : Fails t name v t' e

/-- How a load can end: it takes in all entries of a source, or the entries before one that fails. -/
inductive Ends (t : Entries α) : Tree → Entries α × Except Error Unit → Prop
  | all {source : Tree} {t' : Entries α} (h : k.TakesAll t source t') : Ends t source (t', .ok ())
  | fails (before : Tree) {after : Tree} {name : String} {v : Value} {t₁ t' : Entries α} {e : Error}
      (hbefore : k.TakesAll t before t₁) (hfails : k.Fails t₁ name v t' e) :
      Ends t (before ++ (name, v) :: after) (t', .error e)

variable {k} {ms : List Mention} {t : Entries α}

theorem load_ends (t : Entries α) (source : Tree) : k.Ends t source (k.load t source) := by
  induction source generalizing t with
  | nil => exact .all (.nil t)
  | cons e rest ih =>
    obtain ⟨name, v⟩ := e
    rw [load]
    cases hv : v.map? with
    | none => exact .fails [] (.nil t) (.shapeless hv)
    | some attrs =>
      simp only
      rcases hupdate : k.updated t name attrs with ⟨t₁, e | u⟩
      · exact .fails [] (.nil t) (.update hv hupdate)
      · have hends := ih t₁
        simp only
        generalize k.load t₁ rest = r at hends
        cases hends with
        | all hrest => exact .all (.cons hv hupdate hrest)
        | fails before hbefore hfails => exact .fails ((name, v) :: before) (.cons hv hupdate hbefore) hfails

/-! ### Entries account for mentions -/

theorem thing_concat (ms : List Mention) (name : String) (attrs : Tree) :
    k.thing (ms ++ [(name, attrs)]) name = (k.update (k.thing ms name) attrs).1 := by
  simp [thing, List.filter_append]

theorem thing_concat_ne {name other : String} (ms : List Mention) (attrs : Tree) (h : name ≠ other) :
    k.thing (ms ++ [(name, attrs)]) other = k.thing ms other := by
  simp [thing, List.filter_append, h]

theorem Accounts.mem_names_iff (h : k.Accounts ms t) {name : String} :
    name ∈ Entries.names t ↔ name ∈ ms.map (·.1) := by
  rw [h.names, List.mem_eraseDups]

theorem Accounts.getD_get? (h : k.Accounts ms t) (name : String) :
    (Entries.get? t name).getD (k.new name) = k.thing ms name := by
  by_cases hname : name ∈ ms.map (·.1)
  · rw [h.things name hname, Option.getD_some]
  · have hnone : Entries.get? t name = none := Entries.get?_eq_none_iff.mpr fun hmem => hname (h.mem_names_iff.mp hmem)
    have hfilter : ms.filter (·.1 = name) = [] := by
      rw [List.filter_eq_nil_iff]
      intro e he heq
      exact hname (List.mem_map.mpr ⟨e, he, of_decide_eq_true heq⟩)
    rw [hnone, thing, hfilter]
    rfl

theorem accounts_nil : k.Accounts [] [] := ⟨rfl, fun _ h => nomatch h⟩

/-- The entries after an update account for one mention more. -/
theorem Accounts.updated (h : k.Accounts ms t) (name : String) (attrs : Tree) :
    k.Accounts (ms ++ [(name, attrs)]) (k.updated t name attrs).1 := by
  have hset : (k.updated t name attrs).1 = Entries.set t name (k.update (k.thing ms name) attrs).1 := by
    rw [← h.getD_get? name]
    rfl
  rw [hset]
  refine ⟨?_, fun other hother => ?_⟩
  · rw [List.map_append, List.eraseDups_append, ← h.names]
    by_cases hmem : name ∈ Entries.names t
    · rw [Entries.names_set_of_mem _ hmem]
      simp [List.removeAll, h.mem_names_iff.mp hmem]
    · rw [Entries.names_set_of_not_mem _ hmem]
      simp [List.removeAll, mt h.mem_names_iff.mpr hmem, List.eraseDups_cons]
  · rw [Entries.get?_set]
    split
    · rename_i heq
      rw [← heq, thing_concat]
    · rename_i hne
      rw [List.map_append, List.mem_append, List.map_singleton, List.mem_singleton] at hother
      rw [thing_concat_ne _ _ hne]
      exact h.things other (hother.resolve_right (Ne.symm hne))

theorem Accounts.load (h : k.Accounts ms t) (source : Tree) : k.Accounts (k.mention ms source) (k.load t source).1 := by
  induction source generalizing ms t with
  | nil => exact h
  | cons e rest ih =>
    obtain ⟨name, v⟩ := e
    rw [mention, Kind.load]
    cases v.map? with
    | none => exact h
    | some attrs =>
      have hresult : (k.updated t name attrs).2 = (k.update (k.thing ms name) attrs).2 := by
        rw [← h.getD_get? name]
        rfl
      have hupdated := h.updated name attrs
      simp only
      rw [← hresult]
      rcases hupdate : k.updated t name attrs with ⟨t', e | u⟩ <;> rw [hupdate] at hupdated
      · exact hupdated
      · exact ih hupdated

end Kind

/-! ### Loads of a catalog -/

/-- How a load can end: it concerns the things of its kind only. -/
def Outcome (c : Catalog) (load : Load) (c' : Catalog) (result : Except Error Unit) : Prop :=
  c'.strict = c.strict ∧
    match load with
    | .functions source => (Kind.function c.strict).Ends c.functions source (c'.functions, result) ∧ c'.types = c.types
    | .types source => Kind.type.Ends c.types source (c'.types, result) ∧ c'.functions = c.functions

/-- A catalog that accounts for the mentions of loads, by kind. -/
structure Loaded (strict : Bool) (loads : List Load) (c : Catalog) : Prop where
  strictness : c.strict = strict
  functions : (Kind.function strict).Accounts ((Kind.function strict).mentions (functionSources loads)) c.functions
  types : Kind.type.Accounts (Kind.type.mentions (typeSources loads)) c.types

theorem loadFunctions_eq (c : Catalog) (source : Tree) :
    c.loadFunctions source =
      ({ c with functions := ((Kind.function c.strict).load c.functions source).1 },
        ((Kind.function c.strict).load c.functions source).2) := by
  rw [loadFunctions]
  induction source generalizing c with
  | nil => rfl
  | cons e rest ih =>
    obtain ⟨name, v⟩ := e
    rw [load, Kind.load, addFunction]
    cases v.map? with
    | none => rfl
    | some attrs =>
      simp only [Kind.updated, Kind.function, function?]
      rcases ((Entries.get? c.functions name).getD (.new name c.strict)).update attrs with ⟨f, e | u⟩
      · rfl
      · exact ih { c with functions := Entries.set c.functions name f }

theorem loadTypes_eq (c : Catalog) (source : Tree) :
    c.loadTypes source =
      ({ c with types := (Kind.type.load c.types source).1 }, (Kind.type.load c.types source).2) := by
  rw [loadTypes]
  induction source generalizing c with
  | nil => rfl
  | cons e rest ih =>
    obtain ⟨name, v⟩ := e
    rw [load, Kind.load, addType]
    cases v.map? with
    | none => rfl
    | some attrs =>
      simp only [Kind.updated, Kind.type, type?]
      cases ((Entries.get? c.types name).getD (.new name)).update attrs with
      | error e => rfl
      | ok t => exact ih { c with types := Entries.set c.types name t }

theorem take_outcome (c : Catalog) (load : Load) : Outcome c load (c.take load).1 (c.take load).2 := by
  cases load with
  | functions source =>
    rw [take, loadFunctions_eq]
    exact ⟨rfl, Kind.load_ends c.functions source, rfl⟩
  | types source =>
    rw [take, loadTypes_eq]
    exact ⟨rfl, Kind.load_ends c.types source, rfl⟩

variable {strict : Bool} {loads : List Load} {c : Catalog}

theorem loaded_empty (strict : Bool) : Loaded strict [] (empty strict) := ⟨rfl, Kind.accounts_nil, Kind.accounts_nil⟩

theorem Loaded.take (h : Loaded strict loads c) (load : Load) : Loaded strict (loads ++ [load]) (c.take load).1 := by
  obtain ⟨rfl, hfunctions, htypes⟩ := h
  cases load with
  | functions source =>
    have hsources : functionSources (loads ++ [.functions source]) = functionSources loads ++ [source] := by
      rw [functionSources, List.filterMap_append]
      rfl
    have hothers : typeSources (loads ++ [.functions source]) = typeSources loads := by
      rw [typeSources, List.filterMap_append]
      exact List.append_nil _
    rw [Catalog.take, loadFunctions_eq]
    refine ⟨rfl, ?_, hothers ▸ htypes⟩
    rw [hsources, Kind.mentions, List.foldl_append]
    exact hfunctions.load source
  | types source =>
    have hsources : typeSources (loads ++ [.types source]) = typeSources loads ++ [source] := by
      rw [typeSources, List.filterMap_append]
      rfl
    have hothers : functionSources (loads ++ [.types source]) = functionSources loads := by
      rw [functionSources, List.filterMap_append]
      exact List.append_nil _
    rw [Catalog.take, loadTypes_eq]
    refine ⟨rfl, hothers ▸ hfunctions, ?_⟩
    rw [hsources, Kind.mentions, List.foldl_append]
    exact htypes.load source

theorem Loaded.run {before : List Load} (h : Loaded strict before c) (loads : List Load) :
    Loaded strict (before ++ loads) (c.run loads) := by
  induction loads generalizing before c with
  | nil => rwa [List.append_nil]
  | cons load rest ih =>
    have := ih (h.take load)
    rwa [List.append_assoc] at this

/-- The function of a name has this name itself. -/
theorem Loaded.name_of_function? (h : Loaded strict loads c) {name : String} {f : Function}
    (hf : c.function? name = some f) : f.name = name := by
  have hname : name ∈ Entries.names c.functions := Entries.has_iff.mp (by rw [Entries.has, ← function?, hf]; rfl)
  have hthing := h.functions.things name (h.functions.mem_names_iff.mp hname)
  rw [← function?, hf] at hthing
  have hupdates : ∀ (updates : List Tree) (g : Function),
      (updates.foldl (fun g attrs => (g.update attrs).1) g).name = g.name := by
    intro updates
    induction updates with
    | nil => exact fun _ => rfl
    | cons attrs rest ih => exact fun g => (ih _).trans (g.update_name attrs)
  rw [Option.some.inj hthing]
  exact hupdates _ _

/-- After any loads a catalog accounts for what they mention, and any further load takes in all entries of its
source or those before one that fails. -/
theorem loaded_run (strict : Bool) (loads : List Load) (load : Load) :
    Loaded strict loads ((empty strict).run loads) ∧
      Outcome ((empty strict).run loads) load (((empty strict).run loads).take load).1
        (((empty strict).run loads).take load).2 :=
  ⟨(loaded_empty strict).run loads, take_outcome _ load⟩

example :
    (empty true).loadFunctions [("f", .map []), ("g", .text "x"), ("h", .map [])] =
      (⟨[("f", .new "f" true)], [], true⟩, .error (shapeless "g" (.text "x"))) := rfl

end Bindery.Catalog
