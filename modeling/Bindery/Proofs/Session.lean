import Bindery.Proofs.Catalog.Loads
import Bindery.Proofs.Entries
import Bindery.Session

/-! # Decisions of a session

A session is asked about functions and lists those to generate, while its catalog takes in more sources. Whether a
function is left out is decided when it is first asked about, by itself or in a list, and stands from then on: every
answer is the one of that moment (`answers_of_history`). The invariant is `Remembers`: the decisions of a session are
those that its history calls for. -/

namespace Bindery
open Catalog (Kind Load functionSources)

namespace Catalog

/-- A function is left out of a target: the catalog does not know it, or it asks to be left out. -/
def LeavesOut (c : Catalog) (target function : String) : Prop :=
  c.function? function = none ∨ ∃ f ∈ c.function? function, target ∈ f.ignoredBy

instance (c : Catalog) (target function : String) : Decidable (c.LeavesOut target function) :=
  inferInstanceAs (Decidable (_ ∨ _))

/-- The functions that loads mention, in order of first mention. -/
def mentioned (strict : Bool) (loads : List Load) : List String :=
  (((Kind.function strict).mentions (functionSources loads)).map (·.1)).eraseDups

theorem run_append (c : Catalog) (loads more : List Load) : c.run (loads ++ more) = (c.run loads).run more :=
  List.foldl_append

theorem names_run (strict : Bool) (loads : List Load) :
    Entries.names ((empty strict).run loads).functions = mentioned strict loads :=
  ((loaded_empty strict).run loads).functions.names

end Catalog

namespace Session

/-! ### Histories -/

/-- What is done with a session. -/
inductive Event where
  /-- It is asked whether a function is left out. -/
  | ask (function : String)
  /-- It lists the functions to generate. -/
  | list
  /-- Its catalog takes in a source. -/
  | load (source : Load)

/-- What a session answers. -/
inductive Answer where
  | decision (leftOut : Bool)
  | functions (names : List String)
  | loaded (result : Except Error Unit)

/-- Does what an event asks for. -/
def respond (s : Session) : Event → Session × Answer
  | .ask function => ((s.leavesOut function).1, .decision (s.leavesOut function).2)
  | .list => (s.generatable.1, .functions s.generatable.2)
  | .load source => ({ s with catalog := (s.catalog.take source).1 }, .loaded (s.catalog.take source).2)

/-- A session after events. -/
def after (s : Session) (events : List Event) : Session := events.foldl (fun s e => (s.respond e).1) s

/-- The sources that a catalog takes in with events. -/
def loads (events : List Event) : List Load :=
  events.filterMap fun | .load source => some source | _ => none

/-- An event asks about a function: by name, or because the catalog lists it. -/
def Event.AsksAbout (c : Catalog) (function : String) : Event → Prop
  | .ask name => name = function
  | .list => function ∈ Entries.names c.functions
  | .load _ => False

instance (c : Catalog) (function : String) (e : Event) : Decidable (e.AsksAbout c function) :=
  match e with
  | .ask name => inferInstanceAs (Decidable (name = function))
  | .list => inferInstanceAs (Decidable (function ∈ Entries.names c.functions))
  | .load _ => inferInstanceAs (Decidable False)

/-- The catalog at the moment when a function is first asked about; `c` is the catalog before the events. -/
def firstAsked? (c : Catalog) (function : String) : List Event → Option Catalog
  | [] => none
  | e :: rest => if e.AsksAbout c function then some c else firstAsked? (c.run (loads [e])) function rest

/-- The functions to generate after events, the listing included: those of the catalog that were not left out when they
were first asked about, each once and in order of first mention. -/
structure Lists (strict : Bool) (sources : List Load) (target : String) (events : List Event) (names : List String) :
    Prop where
  current : Entries.names ((Catalog.empty strict).run (sources ++ loads events)).functions =
    Catalog.mentioned strict (sources ++ loads events)
  order : names.Sublist (Catalog.mentioned strict (sources ++ loads events))
  nodup : names.Nodup
  mem_iff : ∀ function, function ∈ names ↔ function ∈ Catalog.mentioned strict (sources ++ loads events) ∧
    ∃ c, firstAsked? ((Catalog.empty strict).run sources) function events = some c ∧ ¬c.LeavesOut target function

/-- What is answered to an event after others, by a session for a target whose catalog has taken in sources before. -/
def Answers (strict : Bool) (sources : List Load) (target : String) (before : List Event) : Event → Answer → Prop
  | .ask function, .decision leftOut =>
    ∃ c, firstAsked? ((Catalog.empty strict).run sources) function (before ++ [.ask function]) = some c ∧
      (leftOut = true ↔ c.LeavesOut target function)
  | .list, .functions names => Lists strict sources target (before ++ [.list]) names
  | .load source, .loaded result =>
    result = (((Catalog.empty strict).run (sources ++ loads before)).take source).2
  | _, _ => False

variable {s : Session} {c : Catalog} {target name : String} {events : List Event}

/-! ### Single decisions -/

theorem leavesOut_fst (s : Session) (name : String) :
    ∃ decisions, (s.leavesOut name).1 = { s with decisions := decisions } := by
  unfold leavesOut
  split
  · exact ⟨s.decisions, rfl⟩
  · exact ⟨_, rfl⟩

/-- A decision on one name changes none on another. -/
theorem leavesOut_leavesOut_snd (s : Session) (name other : String) :
    ((s.leavesOut name).1.leavesOut other).2 = (s.leavesOut other).2 := by
  cases hname : Entries.get? s.decisions name with
  | some decision => simp [leavesOut, hname]
  | none =>
    by_cases heq : name = other
    · subst heq
      simp [leavesOut, hname, Entries.get?_set]
    · cases hother : Entries.get? s.decisions other <;>
        simp [leavesOut, hname, hother, Entries.get?_set, heq, leavesOutNow]

theorem keep_cons_fst (s : Session) (name : String) (rest : List String) :
    (s.keep (name :: rest)).1 = ((s.leavesOut name).1.keep rest).1 := by
  rw [keep]
  rcases s.leavesOut name with ⟨s', _ | _⟩ <;> rfl

theorem keep_fst (s : Session) (names : List String) :
    ∃ decisions, (s.keep names).1 = { s with decisions := decisions } := by
  induction names generalizing s with
  | nil => exact ⟨s.decisions, rfl⟩
  | cons name rest ih =>
    obtain ⟨decisions, hname⟩ := s.leavesOut_fst name
    obtain ⟨decisions', hrest⟩ := ih { s with decisions := decisions }
    exact ⟨decisions', by rw [keep_cons_fst, hname, hrest]⟩

theorem keep_snd (s : Session) (names : List String) :
    (s.keep names).2 = names.filter fun name => !(s.leavesOut name).2 := by
  induction names generalizing s with
  | nil => rfl
  | cons name rest ih =>
    have hrest : ((s.leavesOut name).1.keep rest).2 = rest.filter fun other => !(s.leavesOut other).2 := by
      rw [ih]
      simp only [leavesOut_leavesOut_snd]
    rw [keep]
    rcases hdecided : s.leavesOut name with ⟨s', _ | _⟩ <;> rw [hdecided] at hrest
    · simp [hdecided, hrest]
    · simp [hdecided, hrest]

/-- A decision that has been taken stands. -/
theorem leavesOut_snd (s : Session) (name : String) :
    (s.leavesOut name).2 = (Entries.get? s.decisions name).getD (s.leavesOutNow name) := by
  rw [leavesOut]
  cases Entries.get? s.decisions name <;> rfl

theorem leavesOutNow_eq (s : Session) (name : String) :
    s.leavesOutNow name = decide (s.catalog.LeavesOut s.target name) := by
  rw [leavesOutNow, Bool.eq_iff_iff, decide_eq_true_iff, Catalog.LeavesOut]
  cases s.catalog.function? name with
  | none => simp
  | some f => simp [Function.isIgnoredBy]

/-- A question decides about the function asked about, if that has not been decided. -/
theorem get?_decisions_leavesOut (s : Session) (name other : String) :
    Entries.get? (s.leavesOut name).1.decisions other =
      (Entries.get? s.decisions other).or (if name = other then some (s.leavesOutNow other) else none) := by
  rw [leavesOut]
  cases hname : Entries.get? s.decisions name with
  | some decision =>
    by_cases heq : name = other
    · subst heq
      simp [hname]
    · simp [heq]
  | none =>
    by_cases heq : name = other
    · subst heq
      simp [hname, Entries.get?_set_self]
    · simp [heq, Entries.get?_set_ne]

theorem get?_decisions_keep (s : Session) (names : List String) (other : String) :
    Entries.get? (s.keep names).1.decisions other =
      (Entries.get? s.decisions other).or (if other ∈ names then some (s.leavesOutNow other) else none) := by
  induction names generalizing s with
  | nil => simp [keep]
  | cons name rest ih =>
    obtain ⟨decisions, hname⟩ := s.leavesOut_fst name
    have hnow : (s.leavesOut name).1.leavesOutNow other = s.leavesOutNow other := by rw [hname]; rfl
    rw [keep_cons_fst, ih, get?_decisions_leavesOut, hnow, Option.or_assoc]
    by_cases heq : name = other
    · subst heq
      simp
    · simp [heq, Ne.symm heq]

/-! ### What a session remembers -/

theorem run_loads_append (c : Catalog) (events more : List Event) :
    c.run (loads (events ++ more)) = (c.run (loads events)).run (loads more) := by
  rw [loads, List.filterMap_append, Catalog.run_append]
  rfl

/-- A later event is the first that asks about a function if none before has. -/
theorem firstAsked?_concat (c : Catalog) (name : String) (events : List Event) (e : Event) :
    firstAsked? c name (events ++ [e]) = (firstAsked? c name events).or
      (if e.AsksAbout (c.run (loads events)) name then some (c.run (loads events)) else none) := by
  induction events generalizing c with
  | nil => rfl
  | cons e' rest ih =>
    rw [List.cons_append, firstAsked?, firstAsked?]
    split
    · rfl
    · rw [ih, ← run_loads_append, List.singleton_append]

/-- A session after events: its catalog has taken in their sources, and it has decided about the functions that were
asked about, as the catalog was when that first happened. -/
structure Remembers (c : Catalog) (target' : String) (events : List Event) (s : Session) : Prop where
  catalog : s.catalog = c.run (loads events)
  target : s.target = target'
  decisions : ∀ name, Entries.get? s.decisions name =
    (firstAsked? c name events).map fun first => decide (first.LeavesOut target' name)

theorem remembers_start (c : Catalog) (target : String) (config : Config) :
    Remembers c target [] (start c target config) := ⟨rfl, rfl, fun _ => rfl⟩

theorem Remembers.leavesOutNow (h : Remembers c target events s) (name : String) :
    s.leavesOutNow name = decide ((c.run (loads events)).LeavesOut target name) := by
  rw [leavesOutNow_eq, h.catalog, h.target]

/-- A decision that stands after an event was taken before, or is the present one on a function asked about. -/
theorem Remembers.decisions_concat (h : Remembers c target events s) {e : Event} (decisions : Entries Bool)
    (hdecisions : ∀ name, Entries.get? decisions name = (Entries.get? s.decisions name).or
      (if e.AsksAbout (c.run (loads events)) name then some (s.leavesOutNow name) else none)) (name : String) :
    Entries.get? decisions name =
      (firstAsked? c name (events ++ [e])).map fun first => decide (first.LeavesOut target name) := by
  rw [hdecisions, h.decisions, h.leavesOutNow, firstAsked?_concat, Option.map_or]
  split <;> rfl

theorem Remembers.respond (h : Remembers c target events s) (e : Event) :
    Remembers c target (events ++ [e]) (s.respond e).1 := by
  have hrun := run_loads_append c events [e]
  cases e with
  | ask function =>
    have hdecisions := h.decisions_concat (e := .ask function) _ (s.get?_decisions_leavesOut function)
    obtain ⟨decisions, hs⟩ := s.leavesOut_fst function
    rw [hs] at hdecisions
    rw [Session.respond, hs]
    exact ⟨h.catalog.trans hrun.symm, h.target, hdecisions⟩
  | list =>
    have hkeep := s.get?_decisions_keep (Entries.names s.catalog.functions)
    rw [h.catalog] at hkeep
    have hdecisions := h.decisions_concat (e := .list) _ hkeep
    obtain ⟨decisions, hs⟩ := s.keep_fst (Entries.names (c.run (loads events)).functions)
    rw [hs] at hdecisions
    rw [Session.respond, generatable, h.catalog, hs]
    exact ⟨h.catalog.trans hrun.symm, h.target, hdecisions⟩
  | load source =>
    have hdecisions := h.decisions_concat (e := .load source) s.decisions fun name => by
      simp [Event.AsksAbout]
    refine ⟨?_, h.target, hdecisions⟩
    rw [hrun, ← h.catalog]
    rfl

theorem Remembers.after {before : List Event} (h : Remembers c target before s) (events : List Event) :
    Remembers c target (before ++ events) (s.after events) := by
  induction events generalizing before s with
  | nil => rwa [List.append_nil]
  | cons e rest ih =>
    have hrest := ih (h.respond e)
    rwa [List.append_assoc] at hrest

/-- What a session answers about a function is what held when it was first asked about, the question included. -/
theorem Remembers.leavesOut_snd (h : Remembers c target events s) {e : Event} (name : String)
    (he : e.AsksAbout (c.run (loads events)) name) :
    ∃ first, firstAsked? c name (events ++ [e]) = some first ∧
      (s.leavesOut name).2 = decide (first.LeavesOut target name) := by
  rw [firstAsked?_concat, if_pos he, Session.leavesOut_snd, h.decisions, h.leavesOutNow]
  cases firstAsked? c name events with
  | none => exact ⟨_, rfl, rfl⟩
  | some first => exact ⟨first, rfl, rfl⟩

/-- Every answer of a session is the one of its history: a function is left out if it was when it was first asked about,
and a list has the functions of the present catalog that were not. -/
theorem answers_of_history (strict : Bool) (sources : List Load) (target : String) (config : Config)
    (before : List Event) (e : Event) :
    Answers strict sources target before e
      (((start ((Catalog.empty strict).run sources) target config).after before).respond e).2 := by
  have h := (remembers_start ((Catalog.empty strict).run sources) target config).after before
  rw [List.nil_append] at h
  generalize (start ((Catalog.empty strict).run sources) target config).after before = s at h
  cases e with
  | ask function =>
    obtain ⟨first, hfirst, hanswer⟩ := h.leavesOut_snd (e := .ask function) function rfl
    refine ⟨first, hfirst, ?_⟩
    rw [hanswer, decide_eq_true_iff]
  | list =>
    have hcatalog : s.catalog = (Catalog.empty strict).run (sources ++ loads (before ++ [.list])) := by
      rw [h.catalog, Catalog.run_append, run_loads_append]
      rfl
    have hlisted : Entries.names s.catalog.functions =
        Catalog.mentioned strict (sources ++ loads (before ++ [.list])) := by
      rw [hcatalog, Catalog.names_run]
    have hnames : s.generatable.2 = (Catalog.mentioned strict (sources ++ loads (before ++ [.list]))).filter
        fun name => !(s.leavesOut name).2 := by
      rw [generatable, keep_snd, hlisted]
    have hsublist := hnames ▸ List.filter_sublist
    refine ⟨Catalog.names_run .., hsublist, (nodup_eraseDups _).sublist hsublist, fun function => ?_⟩
    rw [hnames, List.mem_filter]
    refine and_congr_right fun hmem => ?_
    rw [← hlisted, h.catalog] at hmem
    obtain ⟨first, hfirst, hanswer⟩ := h.leavesOut_snd (e := .list) function hmem
    simp [hfirst, hanswer]
  | load source =>
    change _ = ((Catalog.run _ _).take source).2
    rw [Catalog.run_append, ← h.catalog]

/-- A function that is unknown when it is asked about stays left out after a source has told of it. -/
example (config : Config) :
    (((start (.empty true) "RR" config).after [.ask "f", .load (.functions [("f", .map [])])]).respond (.ask "f")).2 =
      .decision true := rfl

end Session
end Bindery
