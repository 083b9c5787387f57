import Bindery.Function.Memo
import Bindery.Proofs.Attr.Merge
import Bindery.Proofs.Except
import Bindery.Proofs.Function.Entry

/-! # Remembered views are the derived ones

A function and a memo of it are asked the same requests in the same order. The function derives every view
from the attributes that it holds at that moment; the memo may answer from what it remembers. Their answers
are the same, failures included, and so are the functions they hold (`run_fresh`). The invariant is
`Memo.Coherent`: what is remembered is what would be derived. -/

namespace Bindery.Function
open Attr (Value Tree)

/-- What can be asked of a function. -/
inductive Request where
  | update (attrs : Tree)
  | setStrict (strict : Bool)
  | params
  | order
  | orderedParams

/-- What is answered. -/
inductive Answer where
  | updated (result : Except Error Unit)
  | strictness
  | params (result : Except Error ParamTable)
  | order (result : Except Error (List String))
  | orderedParams (result : Except Error (List Param))

/-- A function answers from the attributes it holds. -/
def respond (f : Function) : Request → Function × Answer
  | .update attrs => ((f.update attrs).1, .updated (f.update attrs).2)
  | .setStrict strict => ({ f with strict := strict }, .strictness)
  | .params => (f, .params f.params)
  | .order => (f, .order f.order)
  | .orderedParams => (f, .orderedParams f.orderedParams)

/-- A memo answers from what it remembers, where it can. -/
def Memo.respond (m : Memo) : Request → Memo × Answer
  | .update attrs => ((m.update attrs).1, .updated (m.update attrs).2)
  | .setStrict strict => (m.setStrict strict, .strictness)
  | .params => (m.params.1, .params m.params.2)
  | .order => (m.order.1, .order m.order.2)
  | .orderedParams => (m.orderedParams.1, .orderedParams m.orderedParams.2)

/-- The answers to requests, each with the function that is held after it. -/
def run (f : Function) : List Request → List (Function × Answer)
  | [] => []
  | q :: qs => f.respond q :: (f.respond q).1.run qs

/-- The answers of a memo to requests, each with the function that is held after it. -/
def Memo.run (m : Memo) : List Request → List (Function × Answer)
  | [] => []
  | q :: qs => ((m.respond q).1.function, (m.respond q).2) :: (m.respond q).1.run qs

/-! ### What the views depend on -/

/-- Two functions from which the same parameters are derived. -/
structure SameParams (f g : Function) : Prop where
  name : g.name = f.name
  strict : g.strict = f.strict
  attr : ∀ key ∈ paramKeys, g.attr? key = f.attr? key

/-- Two functions from which the same parameters and the same order are derived. -/
structure SameViews (f g : Function) : Prop extends SameParams f g where
  orderAttr : g.attr? orderKey = f.attr? orderKey

variable {f g : Function}

theorem resolveDependencies_congr (hname : g.name = f.name) (hstrict : g.strict = f.strict) (table : ParamTable)
    (parameter : String) (on : List String) :
    g.resolveDependencies table parameter on = f.resolveDependencies table parameter on := by
  induction on with
  | nil => rfl
  | cons d ds ih => rw [resolveDependencies, resolveDependencies, ih, hname, hstrict]

theorem attach_congr (hname : g.name = f.name) (hstrict : g.strict = f.strict) : g.attach = f.attach := by
  funext table d
  rw [attach, attach, resolveDependencies_congr hname hstrict, hname, hstrict]

theorem nameOutput_congr (hname : g.name = f.name) : g.nameOutput = f.nameOutput := by
  funext table e
  rw [nameOutput, nameOutput, hname]

theorem SameParams.params (h : SameParams f g) : g.params = f.params := by
  have htable : g.declaredTable = f.declaredTable := by
    rw [declaredTable, declaredTable, h.attr _ (by decide), h.name]
  have hdeps : g.declaredDependencies = f.declaredDependencies := by
    rw [declaredDependencies, declaredDependencies, h.attr _ (by decide), h.name]
  have hnames : g.declaredNames = f.declaredNames := by
    rw [declaredNames, declaredNames, h.attr _ (by decide), h.name]
  rw [Function.params, Function.params, htable, hdeps, hnames, attach_congr h.name h.strict, nameOutput_congr h.name]

theorem SameViews.orderOf (h : SameViews f g) (table : ParamTable) : g.orderOf table = f.orderOf table := by
  rw [Function.orderOf, Function.orderOf, h.orderAttr, h.name]

theorem SameViews.order (h : SameViews f g) : g.order = f.order := by
  rw [Function.order, Function.order, h.toSameParams.params]
  congr 1
  funext table
  exact h.orderOf table

/-! ### What an entry changes -/

theorem takeEntry_attr? {key other : String} {v : Value} (h : f.takeEntry key v = .ok g) (hne : key ≠ other) :
    g.attr? other = f.attr? other := by
  rcases (takes_of_takeEntry h).attrs with ⟨-, hattrs⟩ | ⟨-, hattrs⟩
  · rw [attr?, hattrs, Entries.get?_set_ne v hne, attr?]
  · rw [attr?, hattrs, attr?]

theorem takeEntry_sameParams {key : String} {v : Value} (h : f.takeEntry key v = .ok g) (hkey : key ∉ paramKeys) :
    SameParams f g where
  name := (takes_of_takeEntry h).name_strict.1
  strict := (takes_of_takeEntry h).name_strict.2
  attr _ hk := takeEntry_attr? h fun heq => hkey (heq ▸ hk)

theorem takeEntry_sameViews {key : String} {v : Value} (h : f.takeEntry key v = .ok g) (hkey : key ∉ paramKeys)
    (hkey' : key ≠ orderKey) : SameViews f g where
  toSameParams := takeEntry_sameParams h hkey
  orderAttr := takeEntry_attr? h hkey'

theorem merge_sameViews (attrs : Tree) : SameViews f { f with attrs := Attr.merge f.attrs (mergedEntries attrs) } := by
  -- The keys from which views are derived have been replaced before and are not merged.
  have hkeep : ∀ key, KeyRole.ofKey key = .list →
      ({ f with attrs := Attr.merge f.attrs (mergedEntries attrs) } : Function).attr? key = f.attr? key := by
    intro key hkey
    refine Attr.get?_merge_of_not_mem fun hmem => ?_
    obtain ⟨e, he, rfl⟩ := List.mem_map.mp hmem
    have hmerged := (List.mem_filter.mp he).2
    rw [hkey] at hmerged
    exact absurd hmerged (by decide)
  refine ⟨⟨rfl, rfl, fun key hkey => hkeep key ?_⟩, hkeep orderKey ?_⟩
  · rw [KeyRole.ofKey, if_pos (Or.inl hkey)]
  · rw [KeyRole.ofKey, if_pos (Or.inr rfl)]

/-! ### The invariant of a memo -/

namespace Memo

/-- What is remembered is what would be derived. -/
structure Coherent (m : Memo) : Prop where
  params : ∀ table, m.params? = some table → m.function.params = .ok table
  order : ∀ names, m.order? = some names → m.function.order = .ok names

theorem coherent_fresh (f : Function) : Coherent (fresh f) where
  params _ h := by cases h
  order _ h := by cases h

variable {m : Memo}

/-- What a memo remembers stays right as long as the views do not change. -/
theorem Coherent.of_sameViews (h : Coherent m) (hg : SameViews m.function g) : Coherent { m with function := g } where
  params table ht := hg.toSameParams.params.trans (h.params table ht)
  order names hn := hg.order.trans (h.order names hn)

/-- Taking in an entry forgets every view that it may have changed. -/
theorem Coherent.takeEntry (h : Coherent m) {key : String} {v : Value} (hg : m.function.takeEntry key v = .ok g) :
    Coherent { m.forgetFor key with function := g } := by
  unfold forgetFor
  split
  · exact coherent_fresh g
  · rename_i hparam
    split
    · exact ⟨fun table ht => (takeEntry_sameParams hg hparam).params.trans (h.params table ht), fun _ hn => by cases hn⟩
    · rename_i horder
      exact h.of_sameViews (takeEntry_sameViews hg hparam horder)

/-- A memo takes in entries as its function does, also up to a failure, and stays coherent. -/
theorem takeEntries_spec (h : Coherent m) (entries : List (String × Value)) :
    Coherent (m.takeEntries entries).1 ∧
      ((m.takeEntries entries).1.function, (m.takeEntries entries).2) = m.function.takeEntries entries := by
  induction entries generalizing m with
  | nil => exact ⟨h, rfl⟩
  | cons e rest ih =>
    obtain ⟨key, v⟩ := e
    cases hg : m.function.takeEntry key v with
    | ok g =>
      rw [takeEntries, Function.takeEntries, hg]
      exact ih (h.takeEntry hg)
    | error e =>
      -- The entries before this one have been taken in, and what they forgot stays forgotten.
      rw [takeEntries, Function.takeEntries, hg]
      exact ⟨h, rfl⟩

theorem update_spec (h : Coherent m) (attrs : Tree) :
    Coherent (m.update attrs).1 ∧ ((m.update attrs).1.function, (m.update attrs).2) = m.function.update attrs := by
  obtain ⟨hcoherent, heq⟩ := takeEntries_spec h attrs
  rw [update, Function.update, ← heq]
  rcases hm : m.takeEntries attrs with ⟨m', e | u⟩ <;> rw [hm] at hcoherent
  · exact ⟨hcoherent, rfl⟩
  · exact ⟨hcoherent.of_sameViews (merge_sameViews attrs), rfl⟩

/-- An answer that is the derived one, from a memo that holds the same function after it. -/
structure Derived {α : Type} (m : Memo) (answer : Memo × Except Error α) (view : Except Error α) : Prop where
  coherent : Coherent answer.1
  function : answer.1.function = m.function
  result : answer.2 = view

theorem params_spec (h : Coherent m) : Derived m m.params m.function.params := by
  unfold params
  split
  · rename_i table ht
    exact ⟨h, rfl, (h.params table ht).symm⟩
  · split
    · rename_i table ht
      refine ⟨⟨fun t hsome => ?_, h.order⟩, rfl, ht.symm⟩
      cases hsome
      exact ht
    · rename_i e he
      exact ⟨h, rfl, he.symm⟩

theorem order_spec (h : Coherent m) : Derived m m.order m.function.order := by
  unfold order
  split
  · rename_i names hn
    exact ⟨h, rfl, (h.order names hn).symm⟩
  · have hp := params_spec h
    rcases hm : m.params with ⟨m', e | table⟩ <;> rw [hm] at hp <;> obtain ⟨hcoherent, hfunction, hresult⟩ := hp
    · refine ⟨hcoherent, hfunction, ?_⟩
      rw [Function.order, ← hresult]
      rfl
    · have horder : m.function.order = m.function.orderOf table := by
        rw [Function.order, ← hresult]
        rfl
      obtain ⟨f, table?, names?⟩ := m'
      obtain rfl : f = m.function := hfunction
      rw [horder]
      simp only
      split
      · rename_i names hn
        refine ⟨⟨hcoherent.params, fun ns hsome => ?_⟩, rfl, hn.symm⟩
        cases hsome
        exact horder.trans hn
      · rename_i e he
        exact ⟨hcoherent, rfl, he.symm⟩

theorem orderedParams_spec (h : Coherent m) : Derived m m.orderedParams m.function.orderedParams := by
  unfold orderedParams
  have hp := params_spec h
  rcases hm : m.params with ⟨m', e | table⟩ <;> rw [hm] at hp <;> obtain ⟨hcoherent, hfunction, hresult⟩ := hp
  · refine ⟨hcoherent, hfunction, ?_⟩
    rw [Function.orderedParams, ← hresult]
    rfl
  · have ho := order_spec hcoherent
    simp only at hfunction
    rw [hfunction] at ho
    simp only
    rcases hm' : m'.order with ⟨m'', e | names⟩ <;> rw [hm'] at ho <;> obtain ⟨hcoherent', hfunction', hresult'⟩ := ho
    · refine ⟨hcoherent', hfunction'.trans hfunction, ?_⟩
      rw [Function.orderedParams, ← hresult, ← hresult']
      rfl
    · refine ⟨hcoherent', hfunction'.trans hfunction, ?_⟩
      rw [Function.orderedParams, ← hresult, ← hresult']
      rfl

/-- A memo answers a request as its function does, and stays coherent. -/
theorem respond_spec (h : Coherent m) (q : Request) :
    Coherent (m.respond q).1 ∧ ((m.respond q).1.function, (m.respond q).2) = m.function.respond q := by
  cases q with
  | update attrs =>
    obtain ⟨hcoherent, heq⟩ := update_spec h attrs
    rw [respond, Function.respond, ← heq]
    exact ⟨hcoherent, rfl⟩
  | setStrict strict => exact ⟨coherent_fresh _, rfl⟩
  | params =>
    obtain ⟨hcoherent, hfunction, hresult⟩ := params_spec h
    exact ⟨hcoherent, by rw [respond, Function.respond, hfunction, hresult]⟩
  | order =>
    obtain ⟨hcoherent, hfunction, hresult⟩ := order_spec h
    exact ⟨hcoherent, by rw [respond, Function.respond, hfunction, hresult]⟩
  | orderedParams =>
    obtain ⟨hcoherent, hfunction, hresult⟩ := orderedParams_spec h
    exact ⟨hcoherent, by rw [respond, Function.respond, hfunction, hresult]⟩

theorem Coherent.run (h : Coherent m) (qs : List Request) : m.run qs = m.function.run qs := by
  induction qs generalizing m with
  | nil => rfl
  | cons q qs ih =>
    obtain ⟨hcoherent, heq⟩ := respond_spec h q
    rw [Memo.run, Function.run, ih hcoherent, ← heq]

end Memo

/-- A memo that starts with nothing remembered answers every sequence of requests as its function does,
and holds the same function after each of them. -/
theorem run_fresh (f : Function) (qs : List Request) : (Memo.fresh f).run qs = f.run qs :=
  (Memo.coherent_fresh f).run qs

end Bindery.Function
