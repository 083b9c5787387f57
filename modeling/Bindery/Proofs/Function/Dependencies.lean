import Bindery.Proofs.Function.Params

/-! # Strict and lenient dependencies

A strict function refuses an entry of `DEPS` that mentions something else than a parameter, a lenient one leaves out
what is mentioned. Both come from one equation (`params_eq`), in which strictness decides only whether the first name
that is no parameter is a failure. -/

namespace Bindery

/-- Whether it says of `DEPS` that a name is no parameter. -/
def Error.blamesDependency : Error → Bool
  | .unresolvedDependency .. => true
  | .unknownParameter _ key _ => key == "DEPS"
  | _ => false

namespace Function

/-- A place of `DEPS` where a name stands. -/
inductive Mention where
  /-- The parameter that an entry is declared on. -/
  | declaredOn (parameter : String)
  /-- A name that an entry for the parameter lists. -/
  | listed (parameter name : String)
deriving Repr, DecidableEq

namespace Mention

/-- The name that stands there. -/
def name : Mention → String
  | declaredOn parameter => parameter
  | listed _ name => name

/-- The failure of a strict function in which the name is no parameter. -/
def failure (function : String) : Mention → Error
  | declaredOn parameter => .unknownParameter function "DEPS" parameter
  | listed parameter name => .unresolvedDependency function parameter name

theorem blamesDependency_failure (function : String) (m : Mention) : (m.failure function).blamesDependency = true := by
  cases m <;> rfl

end Mention

/-- The names of an entry as they are written. -/
def Dependency.mentions (d : Dependency) : List Mention := .declaredOn d.parameter :: d.on.map (.listed d.parameter)

/-- The first name in some entries that is not declared. -/
def unknownMention? (declared : List String) (ds : List Dependency) : Option Mention :=
  (ds.flatMap Dependency.mentions).find? (·.name ∉ declared)

/-- What the entries for a parameter list, as far as it is declared. -/
def listedFor (declared : List String) (ds : List Dependency) (parameter : String) : List String :=
  (ds.filter (·.parameter = parameter)).flatMap fun d => d.on.filter (· ∈ declared)

/-- The function with dependencies that are strict or lenient. -/
def withStrict (f : Function) (strict : Bool) : Function := { f with strict := strict }

theorem exists_unknownMention?_iff {declared : List String} {ds : List Dependency} :
    (∃ m, unknownMention? declared ds = some m) ↔
      ∃ d ∈ ds, d.parameter ∉ declared ∨ ∃ name ∈ d.on, name ∉ declared := by
  rw [← Option.isSome_iff_exists, unknownMention?, List.find?_isSome]
  constructor
  · rintro ⟨m, hm, hunknown⟩
    obtain ⟨d, hd, hm⟩ := List.mem_flatMap.mp hm
    refine ⟨d, hd, ?_⟩
    rcases List.mem_cons.mp hm with rfl | hm
    · exact Or.inl (of_decide_eq_true hunknown)
    · obtain ⟨name, hname, rfl⟩ := List.mem_map.mp hm
      exact Or.inr ⟨name, hname, of_decide_eq_true hunknown⟩
  · rintro ⟨d, hd, hunknown | ⟨name, hname, hunknown⟩⟩
    · exact ⟨_, List.mem_flatMap.mpr ⟨d, hd, List.mem_cons_self⟩, decide_eq_true hunknown⟩
    · exact ⟨_, List.mem_flatMap.mpr ⟨d, hd, List.mem_cons_of_mem _ (List.mem_map_of_mem hname)⟩,
        decide_eq_true hunknown⟩

/-! ### Names that are refused -/

/-- The first of some names that a function refuses because it is not declared. -/
def refused? (f : Function) (declared : List String) (ms : List Mention) : Option Mention :=
  if f.strict then ms.find? (·.name ∉ declared) else none

/-- A result, unless a name has been refused. -/
def unlessRefused {α : Type} (f : Function) (refused : Option Mention) (result : α) : Except Error α :=
  match refused with
  | some m => .error (m.failure f.name)
  | none => .ok result

variable {f : Function} {declared : List String} {ms : List Mention} {m : Mention}

theorem refused?_append (f : Function) (declared : List String) (ms ms' : List Mention) :
    f.refused? declared (ms ++ ms') = (f.refused? declared ms).or (f.refused? declared ms') := by
  unfold refused?
  split
  · exact List.find?_append
  · rfl

theorem refused?_cons_of_mem (h : m.name ∈ declared) : f.refused? declared (m :: ms) = f.refused? declared ms := by
  unfold refused?
  rw [List.find?_cons_of_neg (by simpa using h)]

theorem refused?_cons_of_not_mem (h : m.name ∉ declared) :
    f.refused? declared (m :: ms) = if f.strict then some m else none := by
  unfold refused?
  rw [List.find?_cons_of_pos (by simpa using h)]

/-! ### Entries -/

variable {table t : ParamTable}

theorem resolveDependencies_eq (f : Function) (table : ParamTable) (parameter : String) (on : List String) :
    f.resolveDependencies table parameter on =
      f.unlessRefused (f.refused? (Entries.names table) (on.map (.listed parameter)))
        (on.filter (· ∈ Entries.names table)) := by
  induction on with
  | nil => simp [resolveDependencies, refused?, unlessRefused]
  | cons name on ih =>
    rw [resolveDependencies, ih, List.map_cons]
    by_cases hname : name ∈ Entries.names table
    · rw [if_pos (Entries.has_iff.mpr hname), refused?_cons_of_mem hname, List.filter_cons_of_pos (by simpa using hname)]
      cases f.refused? (Entries.names table) (on.map (.listed parameter)) <;> rfl
    · rw [if_neg (mt Entries.has_iff.mp hname), refused?_cons_of_not_mem hname,
        List.filter_cons_of_neg (by simpa using hname)]
      cases hstrict : f.strict
      · simp [refused?, hstrict]
      · rfl

/-- A table with the dependencies that entries declare. -/
def attached (table : ParamTable) (ds : List Dependency) : ParamTable :=
  table.map fun e =>
    (e.1, { e.2 with dependencies := e.2.dependencies ++ listedFor (Entries.names table) ds e.1 })

theorem names_attached (table : ParamTable) (ds : List Dependency) :
    Entries.names (attached table ds) = Entries.names table := by
  simp [Entries.names, attached, Function.comp_def]

theorem dependencies_attached (table : ParamTable) (ds : List Dependency) :
    (attached table ds).map (fun e => (e.1, e.2.dependencies)) =
      table.map fun e => (e.1, e.2.dependencies ++ listedFor (Entries.names table) ds e.1) :=
  List.map_map ..

theorem attached_nil (table : ParamTable) : attached table [] = table := by
  simp [attached, listedFor]

theorem listedFor_cons (declared : List String) (d : Dependency) (ds : List Dependency) (parameter : String) :
    listedFor declared (d :: ds) parameter = listedFor declared [d] parameter ++ listedFor declared ds parameter := by
  unfold listedFor
  rw [← List.singleton_append, List.filter_append, List.flatMap_append]

theorem attached_attached (table : ParamTable) (d : Dependency) (ds : List Dependency) :
    attached (attached table [d]) ds = attached table (d :: ds) := by
  rw [attached, names_attached, attached, List.map_map, attached]
  refine List.map_congr_left fun e _ => ?_
  simp only [Function.comp_apply, List.append_assoc, ← listedFor_cons]

/-- Without an entry for one of its parameters a table stays as it is. -/
theorem attached_of_not_mem {d : Dependency} (h : d.parameter ∉ Entries.names table) : attached table [d] = table := by
  have hnone : ∀ e ∈ table, listedFor (Entries.names table) [d] e.1 = [] := by
    intro e he
    have hne : d.parameter ≠ e.1 := fun heq => h (heq ▸ List.mem_map_of_mem he)
    simp [listedFor, hne]
  calc attached table [d]
    _ = table.map id := List.map_congr_left fun e he => by rw [hnone e he, List.append_nil]; rfl
    _ = table := List.map_id table

theorem attached_of_mem (hnodup : (Entries.names table).Nodup) (d : Dependency) :
    attached table [d] = Entries.modify table d.parameter fun p =>
      { p with dependencies := p.dependencies ++ d.on.filter (· ∈ Entries.names table) } := by
  rw [Entries.modify_eq_map hnodup]
  refine List.map_congr_left fun e _ => ?_
  by_cases he : d.parameter = e.1
  · simp [listedFor, he]
  · simp [listedFor, he, Ne.symm he]

theorem attach_eq (hnodup : (Entries.names table).Nodup) (d : Dependency) :
    f.attach table d = f.unlessRefused (f.refused? (Entries.names table) d.mentions) (attached table [d]) := by
  rw [attach, Dependency.mentions]
  by_cases hd : d.parameter ∈ Entries.names table
  · rw [if_pos (Entries.has_iff.mpr hd), refused?_cons_of_mem hd, resolveDependencies_eq, attached_of_mem hnodup]
    cases f.refused? (Entries.names table) (d.on.map (.listed d.parameter)) <;> rfl
  · rw [if_neg (mt Entries.has_iff.mp hd), refused?_cons_of_not_mem hd, attached_of_not_mem hd]
    cases f.strict <;> rfl

theorem foldlM_attach (hnodup : (Entries.names table).Nodup) (ds : List Dependency) :
    ds.foldlM f.attach table =
      f.unlessRefused (f.refused? (Entries.names table) (ds.flatMap Dependency.mentions)) (attached table ds) := by
  induction ds generalizing table with
  | nil =>
    rw [attached_nil]
    simp [refused?, unlessRefused, pure, Except.pure]
  | cons d ds ih =>
    have hrest : ds.foldlM f.attach (attached table [d]) =
        f.unlessRefused (f.refused? (Entries.names table) (ds.flatMap Dependency.mentions)) (attached table (d :: ds)) := by
      rw [ih (by rwa [names_attached]), names_attached, attached_attached]
    -- An entry keeps the names of the table, so that the later ones are judged by the same names.
    rw [List.foldlM_cons, attach_eq hnodup, List.flatMap_cons, refused?_append]
    cases f.refused? (Entries.names table) d.mentions with
    | some m => rfl
    | none => exact hrest

/-! ### What else can fail -/

theorem blamesDependency_of_listItems {owner key : String} {v : Attr.Value} {e : Error}
    (h : listItems owner key v = .error e) : e.blamesDependency = false := by
  unfold listItems at h
  split at h <;> cases h
  rfl

theorem blamesDependency_of_parse {function item : String} {e : Error} (h : Param.parse function item = .error e) :
    e.blamesDependency = false := by
  unfold Param.parse at h
  dsimp only at h
  split at h
  · cases h
    rfl
  · split at h <;> cases h
    rfl

theorem blamesDependency_of_declare {function : String} {items : List String} {e : Error}
    (h : declare function table items = .error e) : e.blamesDependency = false := by
  induction items generalizing table with
  | nil => cases h
  | cons item items ih =>
    rw [declare] at h
    split at h
    · rename_i hparse
      cases h
      exact blamesDependency_of_parse hparse
    · split at h
      · cases h
        rfl
      · exact ih h

theorem blamesDependency_of_declaredTable {e : Error} (h : f.declaredTable = .error e) : e.blamesDependency = false := by
  unfold declaredTable declaredParams at h
  split at h
  · split at h
    · rename_i hitems
      cases h
      exact blamesDependency_of_listItems hitems
    · exact blamesDependency_of_declare h
  · cases h

theorem blamesDependency_of_declaredDependencies {e : Error} (h : f.declaredDependencies = .error e) :
    e.blamesDependency = false := by
  unfold declaredDependencies dependencies at h
  split at h
  · split at h
    · rename_i hitems
      cases h
      exact blamesDependency_of_listItems hitems
    · obtain ⟨item, -, h⟩ := exists_of_mapM_eq_error h
      unfold Dependency.parse at h
      split at h <;> cases h
      rfl
  · cases h

theorem blamesDependency_of_declaredNames {e : Error} (h : f.declaredNames = .error e) : e.blamesDependency = false := by
  unfold declaredNames displayNames at h
  split at h
  · split at h
    · obtain ⟨entry, -, h⟩ := exists_of_mapM_eq_error h
      unfold entryName at h
      split at h <;> cases h <;> rfl
    · split at h
      · rename_i hitems
        cases h
        exact blamesDependency_of_listItems hitems
      · obtain ⟨item, -, h⟩ := exists_of_mapM_eq_error h
        unfold parseName at h
        split at h
        · split at h <;> cases h
          rfl
        · cases h
          rfl
  · cases h

theorem blamesDependency_of_nameOutput {e : Error} {entry : String × String} (h : f.nameOutput table entry = .error e) :
    e.blamesDependency = false := by
  unfold nameOutput at h
  split at h <;> cases h
  rfl

/-- The parameters of a table with the display names that are declared. -/
def named (f : Function) (table : ParamTable) : Except Error ParamTable := do
  (← f.declaredNames).foldlM f.nameOutput table

theorem blamesDependency_of_named {e : Error} (h : f.named table = .error e) : e.blamesDependency = false := by
  rcases bind_eq_error_iff.mp h with h | ⟨names, -, h⟩
  · exact blamesDependency_of_declaredNames h
  · obtain ⟨t, entry, -, h⟩ := exists_of_foldlM_eq_error h
    exact blamesDependency_of_nameOutput h

/-- Display names change no dependencies. -/
theorem dependencies_of_named (h : f.named table = .ok t) :
    t.map (fun e => (e.1, e.2.dependencies)) = table.map fun e => (e.1, e.2.dependencies) := by
  obtain ⟨names, -, h⟩ := bind_eq_ok_iff.mp h
  refine foldlM_eq_ok_preserves (fun t entry t' ht' => ?_) h
  unfold nameOutput at ht'
  split at ht' <;> cases ht'
  exact Entries.map_modify (g := Param.dependencies) (f := fun p => { p with outputName := some entry.2 })
    (fun _ => rfl) t entry.1

/-! ### Parameters -/

/-- Where the parameters and the entries are read, a refused name is what the parameters come to. -/
theorem params_eq {ds : List Dependency} (htable : f.declaredTable = .ok table) (hds : f.declaredDependencies = .ok ds) :
    f.params =
      (f.unlessRefused (f.refused? (Entries.names table) (ds.flatMap Dependency.mentions)) (attached table ds) >>=
        f.named) := by
  obtain ⟨ps, hps, rfl⟩ := declares_of_declaredTable htable
  have hnodup : (Entries.names (tableOf ps)).Nodup := by
    rw [names_tableOf]
    exact hps.nodup
  rw [params, htable, ok_bind, hds, ok_bind, foldlM_attach hnodup]
  rfl

theorem unlessRefused_eq_ok_iff {α : Type} {refused : Option Mention} {a b : α} :
    f.unlessRefused refused a = .ok b ↔ refused = none ∧ a = b := by
  cases refused <;> simp [unlessRefused]

theorem unlessRefused_eq_error_iff {α : Type} {refused : Option Mention} {a : α} {e : Error} :
    f.unlessRefused refused a = .error e ↔ ∃ m, refused = some m ∧ m.failure f.name = e := by
  cases refused <;> simp [unlessRefused]

theorem params_eq_ok_iff :
    f.params = .ok table ↔ ∃ declared ds, f.declaredTable = .ok declared ∧ f.declaredDependencies = .ok ds ∧
      f.refused? (Entries.names declared) (ds.flatMap Dependency.mentions) = none ∧
        f.named (attached declared ds) = .ok table := by
  constructor
  · intro h
    have hparams := h
    rw [params, bind_eq_ok_iff] at h
    obtain ⟨declared, hdeclared, h⟩ := h
    obtain ⟨ds, hds, -⟩ := bind_eq_ok_iff.mp h
    rw [params_eq hdeclared hds, bind_eq_ok_iff] at hparams
    obtain ⟨t, ht, hnamed⟩ := hparams
    obtain ⟨hnone, rfl⟩ := unlessRefused_eq_ok_iff.mp ht
    exact ⟨declared, ds, hdeclared, hds, hnone, hnamed⟩
  · rintro ⟨declared, ds, hdeclared, hds, hnone, hnamed⟩
    rw [params_eq hdeclared hds, hnone]
    exact hnamed

/-- The parameters fail over a name that is refused, or over what is no matter of dependencies. -/
theorem params_blames_iff {ds : List Dependency} (htable : f.declaredTable = .ok table)
    (hds : f.declaredDependencies = .ok ds) {e : Error} :
    f.params = .error e ∧ e.blamesDependency = true ↔
      ∃ m, f.refused? (Entries.names table) (ds.flatMap Dependency.mentions) = some m ∧ m.failure f.name = e := by
  rw [params_eq htable hds, bind_eq_error_iff, unlessRefused_eq_error_iff]
  constructor
  · rintro ⟨h | ⟨t, -, h⟩, hblames⟩
    · exact h
    · rw [blamesDependency_of_named h] at hblames
      cases hblames
  · rintro ⟨m, hm, rfl⟩
    exact ⟨Or.inl ⟨m, hm, rfl⟩, m.blamesDependency_failure f.name⟩

theorem dependencies_of_declaredTable (h : f.declaredTable = .ok table) : ∀ e ∈ table, e.2.dependencies = [] := by
  obtain ⟨ps, ⟨⟨items, -, hps⟩, -⟩, rfl⟩ := declares_of_declaredTable h
  intro e he
  obtain ⟨p, hp, rfl⟩ := List.mem_map.mp he
  rw [← forall_mem_of_mapM_eq_ok (fun _ _ => Param.declared_of_parse) hps p hp]
  rfl

/-- A parameter depends on what its entries list, one after the other, as far as it is a parameter. -/
theorem listed_of_named {declared : ParamTable} {ds : List Dependency} (hdeclared : f.declaredTable = .ok declared)
    (h : f.named (attached declared ds) = .ok table) :
    Entries.names table = Entries.names declared ∧
      ∀ e ∈ table, e.2.dependencies = listedFor (Entries.names declared) ds e.1 := by
  have hview := dependencies_of_named h
  constructor
  · have hnames := congrArg (List.map Prod.fst) hview
    rw [List.map_map, List.map_map] at hnames
    exact hnames.trans (names_attached declared ds)
  · intro e he
    have hmem : (e.1, e.2.dependencies) ∈ table.map fun e => (e.1, e.2.dependencies) := List.mem_map_of_mem he
    rw [hview, dependencies_attached] at hmem
    obtain ⟨d, hd, heq⟩ := List.mem_map.mp hmem
    obtain ⟨hname, hdependencies⟩ := Prod.mk.inj heq
    rw [← hdependencies, ← hname, dependencies_of_declaredTable hdeclared d hd, List.nil_append]

theorem mem_of_mem_listedFor {declared : List String} {ds : List Dependency} {parameter name : String}
    (h : name ∈ listedFor declared ds parameter) : name ∈ declared := by
  obtain ⟨d, -, hname⟩ := List.mem_flatMap.mp h
  exact of_decide_eq_true (List.mem_filter.mp hname).2

/-- How the parameters of a function come to their dependencies. -/
structure ResolvesDependencies (f : Function) : Prop where
  /-- A parameter depends on what its entries list, one after the other, as far as it is a parameter. -/
  listed : ∀ table, f.params = .ok table → ∃ ds, f.declaredDependencies = .ok ds ∧
    ∀ e ∈ table, e.2.dependencies = listedFor (Entries.names table) ds e.1
  known : ∀ table, f.params = .ok table → ∀ e ∈ table, ∀ name ∈ e.2.dependencies, name ∈ Entries.names table
  /-- Where strict dependencies are no failure, lenient ones come to the same parameters. -/
  lenient_of_strict : ∀ table, (f.withStrict true).params = .ok table → (f.withStrict false).params = .ok table
  strict_blames_iff : ∀ declared ds, f.declaredTable = .ok declared → f.declaredDependencies = .ok ds →
    ((∃ e, (f.withStrict true).params = .error e ∧ e.blamesDependency = true) ↔
      ∃ d ∈ ds, d.parameter ∉ Entries.names declared ∨ ∃ name ∈ d.on, name ∉ Entries.names declared)
  /-- The failure tells the first name, in the order in which the entries are written. -/
  strict_blames_first : ∀ declared ds, f.declaredTable = .ok declared → f.declaredDependencies = .ok ds →
    ∀ m, unknownMention? (Entries.names declared) ds = some m → (f.withStrict true).params = .error (m.failure f.name)
  lenient_blames_none : ∀ e, (f.withStrict false).params = .error e → e.blamesDependency = false
  lenient_keeps_all : ∀ table, (f.withStrict false).params = .ok table →
    ∃ declared, f.declaredTable = .ok declared ∧ Entries.names table = Entries.names declared

/-- Strict and lenient functions differ only in what they do about names that are no parameters. -/
theorem resolvesDependencies (f : Function) : f.ResolvesDependencies where
  listed table h := by
    obtain ⟨declared, ds, hdeclared, hds, -, hnamed⟩ := params_eq_ok_iff.mp h
    obtain ⟨hnames, hlisted⟩ := listed_of_named hdeclared hnamed
    exact ⟨ds, hds, hnames ▸ hlisted⟩
  known table h e he name hname := by
    obtain ⟨declared, ds, hdeclared, -, -, hnamed⟩ := params_eq_ok_iff.mp h
    obtain ⟨hnames, hlisted⟩ := listed_of_named hdeclared hnamed
    rw [hlisted e he] at hname
    exact hnames ▸ mem_of_mem_listedFor hname
  lenient_of_strict table h := by
    obtain ⟨declared, ds, hdeclared, hds, -, hnamed⟩ := params_eq_ok_iff.mp h
    exact params_eq_ok_iff.mpr ⟨declared, ds, hdeclared, hds, rfl, hnamed⟩
  strict_blames_iff declared ds hdeclared hds := by
    rw [← exists_unknownMention?_iff]
    constructor
    · rintro ⟨e, he⟩
      obtain ⟨m, hm, -⟩ := (params_blames_iff (f := f.withStrict true) hdeclared hds).mp he
      exact ⟨m, hm⟩
    · rintro ⟨m, hm⟩
      exact ⟨_, (params_blames_iff (f := f.withStrict true) hdeclared hds).mpr ⟨m, hm, rfl⟩⟩
  strict_blames_first declared ds hdeclared hds m hm :=
    ((params_blames_iff (f := f.withStrict true) hdeclared hds).mpr ⟨m, hm, rfl⟩).1
  lenient_blames_none e h := by
    have hparams := h
    rw [params, bind_eq_error_iff] at h
    rcases h with h | ⟨declared, hdeclared, h⟩
    · exact blamesDependency_of_declaredTable h
    · rcases bind_eq_error_iff.mp h with h | ⟨ds, hds, -⟩
      · exact blamesDependency_of_declaredDependencies h
      · rw [params_eq hdeclared hds] at hparams
        exact blamesDependency_of_named hparams
  lenient_keeps_all table h := by
    obtain ⟨declared, ds, hdeclared, -, -, hnamed⟩ := params_eq_ok_iff.mp h
    exact ⟨declared, hdeclared, (listed_of_named hdeclared hnamed).1⟩

/-- The first name that is no parameter is `b`, although an entry for the unknown `z` comes before the entry that
lists `b` a second time. -/
theorem resolvesDependencies_unknown :
    (withStrict ⟨"f", [("PARAMS", .text "INT a, OUT INT c"), ("DEPS", .text "a ON c b, z ON a, c ON a b, a ON a")],
        "ERROR", .empty, .empty, false⟩ true).params = .error (.unresolvedDependency "f" "a" "b") ∧
      ∀ e, (withStrict ⟨"f", [("PARAMS", .text "INT a, OUT INT c"),
        ("DEPS", .text "a ON c b, z ON a, c ON a b, a ON a")], "ERROR", .empty, .empty, false⟩ false).params = .error e →
          e.blamesDependency = false :=
  ⟨(resolvesDependencies _).strict_blames_first
      [("a", .plain "a" "INT" .input), ("c", .plain "c" "INT" .output)]
      [⟨"a", ["c", "b"]⟩, ⟨"z", ["a"]⟩, ⟨"c", ["a", "b"]⟩, ⟨"a", ["a"]⟩] (by decide +kernel) (by decide +kernel)
      (.listed "a" "b") (by decide +kernel),
    (resolvesDependencies _).lenient_blames_none⟩

end Function
end Bindery
