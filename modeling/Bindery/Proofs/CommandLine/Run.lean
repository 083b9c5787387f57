import Bindery.CommandLine.Run
import Bindery.Proofs.Job
import Mathlib.Algebra.GroupWithZero.Nat

/-! # Runs are safe

A run that is refused writes nothing (`Refuses`). Otherwise its jobs have their turns one after the other up to the
first that fails, and each turn changes nothing but the destination of its job (`Turns`). A run whose destinations are
not among the files it reads gives every job what a run of this job alone gives it (`Turns.succeeds_of_apart`). -/

namespace Bindery

/-! ### Turns -/

/-- The turn of a job that has succeeded. -/
structure Turn where
  target : String
  path : String
  /-- The slot of the path. -/
  place : Place
  report : Report

namespace Turn
variable {a : Arguments} {config : Config} {files : Files} {t : Turn}

/-- What the job was asked for. -/
def pair (t : Turn) : String × Destination := (t.target, .file t.path)

/-- The files when the turn is over. -/
def after (t : Turn) (files : Files) : Files := files.put t.place (.file (.text t.report.text))

/-- From files, the job generates its report, and its output can be written. -/
structure Succeeds (t : Turn) (a : Arguments) (config : Config) (files : Files) : Prop where
  generates : ∃ g, Generator.ofName files a.docFolder? t.target = .ok g ∧ a.job.report files config g = .ok t.report
  folder : files.isFolder (Files.parent t.path)
  slot : files.fileSlot t.path = .ok t.place

theorem Succeeds.free (h : t.Succeeds a config files) : files.node? t.place ≠ some .folder :=
  (Files.fileSlot_eq_ok_iff.mp h.slot).2.2.2

theorem Succeeds.sameFolders (h : t.Succeeds a config files) : files.SameFolders (t.after files) :=
  Files.sameFolders_put h.free _

theorem Succeeds.node?_after (h : t.Succeeds a config files) (x : Place) :
    (t.after files).node? x = if x = t.place then some (.file (.text t.report.text)) else files.node? x :=
  Files.node?_put h.free _ x

theorem runOne_file_eq_ok_iff {w w' : World} {target path : String} {report : Report} :
    a.runOne config w (target, .file path) = .ok (w', report) ↔ ∃ t : Turn, t.pair = (target, .file path) ∧
      t.report = report ∧ t.Succeeds a config w.files ∧ w' = { w with files := t.after w.files } := by
  rw [Arguments.runOne]
  constructor
  · intro h
    split at h
    · rename_i g hg
      obtain ⟨hreport, hfolder, x, hx, rfl⟩ := Job.run_file_eq_ok_iff.mp h
      exact ⟨⟨target, path, x, report⟩, rfl, rfl, ⟨⟨g, hg, hreport⟩, hfolder, hx⟩, rfl⟩
    · cases h
  · rintro ⟨⟨_, _, x, _⟩, ⟨⟩, rfl, ⟨⟨g, hg, hreport⟩, hfolder, hslot⟩, rfl⟩
    rw [hg]
    exact Job.run_file_eq_ok_iff.mpr ⟨hreport, hfolder, x, hslot, rfl⟩

end Turn

/-- Jobs have their turns one after the other, from files to files. -/
inductive Turns (a : Arguments) (config : Config) : Files → List Turn → Files → Prop
  | nil (files : Files) : Turns a config files [] files
  | cons {files files' : Files} {t : Turn} {ts : List Turn} (h : t.Succeeds a config files)
      (hrest : Turns a config (t.after files) ts files') : Turns a config files (t :: ts) files'

namespace Turns
variable {a : Arguments} {config : Config} {files files' : Files} {ts : List Turn}

theorem sameFolders (h : Turns a config files ts files') : files.SameFolders files' := by
  induction h with
  | nil files => exact .refl files
  | cons h _ ih => exact h.sameFolders.trans ih

theorem node?_of_not_mem (h : Turns a config files ts files') {x : Place} (hx : x ∉ ts.map (·.place)) :
    files'.node? x = files.node? x := by
  induction h with
  | nil => rfl
  | cons h _ ih =>
    rw [List.map_cons, List.mem_cons, not_or] at hx
    rw [ih hx.2, h.node?_after, if_neg hx.1]

theorem slot (h : Turns a config files ts files') {t : Turn} (ht : t ∈ ts) : files.fileSlot t.path = .ok t.place := by
  induction h with
  | nil => cases ht
  | cons h _ ih =>
    rcases List.mem_cons.mp ht with rfl | ht
    · exact h.slot
    · exact h.sameFolders.fileSlot_eq_ok_iff.mp (ih ht)

/-- What a job has written stays, if no two write to the same place. -/
theorem node?_of_mem (h : Turns a config files ts files') (hnodup : (ts.map (·.place)).Nodup) {t : Turn}
    (ht : t ∈ ts) : files'.node? t.place = some (.file (.text t.report.text)) := by
  induction h with
  | nil => cases ht
  | cons h hrest ih =>
    rw [List.map_cons, List.nodup_cons] at hnodup
    rcases List.mem_cons.mp ht with rfl | ht
    · rw [hrest.node?_of_not_mem hnodup.1, h.node?_after, if_pos rfl]
    · exact ih hnodup.2 ht

theorem readText_of_mem (h : Turns a config files ts files') (hnodup : (ts.map (·.place)).Nodup) {t : Turn}
    (ht : t ∈ ts) : files'.readText t.path = .ok t.report.text := by
  have hplace := (Files.fileSlot_eq_ok_iff.mp (h.slot ht)).2.2.1
  exact Files.readText_eq_ok (h.sameFolders.place_eq_ok_iff.mpr hplace) (h.node?_of_mem hnodup ht)

end Turns

/-! ### Jobs up to the first that fails -/

namespace Arguments
variable {a : Arguments} {config : Config} {files : Files}

/-- How many functions could not be generated. -/
def failures (ts : List Turn) : Nat := (ts.map (·.report.diagnostics.length)).sum

/-- Jobs have been carried out up to the first that fails; `rest` is the one that fails and all after it. -/
structure CarriesOut (a : Arguments) (config : Config) (p : Progress) (pairs : List (String × Destination))
    (out : Outcome) (done : List Turn) (rest : List (String × Destination)) : Prop where
  pairs : pairs = done.map Turn.pair ++ rest
  turns : Turns a config p.world.files done out.world.files
  standard : out.world.standard = p.world.standard
  failure : ∀ pair others, rest = pair :: others → (∃ e, a.runOne config out.world pair = .error e) ∧ out.code = ⟨1⟩
  success : rest = [] →
    out.code = if p.diagnostics + failures done > 0 ∧ config.failOnDiagnostics = true then ⟨3⟩ else ⟨0⟩

theorem runJobs_nil (a : Arguments) (config : Config) (p : Progress) : (a.runJobs config p []).world = p.world ∧
    (a.runJobs config p []).code = if p.diagnostics > 0 ∧ config.failOnDiagnostics = true then ⟨3⟩ else ⟨0⟩ := by
  rw [runJobs]
  split <;> exact ⟨rfl, rfl⟩

theorem exists_carriesOut (a : Arguments) (config : Config) {pairs : List (String × Destination)}
    (hpairs : ∀ pair ∈ pairs, ∃ path, pair.2 = .file path) (p : Progress) :
    ∃ done rest, a.CarriesOut config p pairs (a.runJobs config p pairs) done rest := by
  induction pairs generalizing p with
  | nil =>
    obtain ⟨hworld, hcode⟩ := runJobs_nil a config p
    refine ⟨[], [], rfl, ?_, by rw [hworld], fun _ _ h => (nomatch h), fun _ => hcode⟩
    rw [hworld]
    exact .nil _
  | cons pair rest ih =>
    rw [List.forall_mem_cons] at hpairs
    obtain ⟨⟨path, hpath⟩, hrest⟩ := hpairs
    obtain ⟨target, _⟩ := pair
    subst hpath
    rcases hone : a.runOne config p.world (target, .file path) with e | ⟨w, report⟩
    · refine ⟨[], (target, .file path) :: rest, ?_⟩
      rw [runJobs, hone]
      refine ⟨rfl, .nil _, rfl, ?_, fun h => (nomatch h)⟩
      rintro _ _ ⟨⟩
      exact ⟨⟨e, hone⟩, rfl⟩
    · obtain ⟨t, ht, rfl, hsucceeds, rfl⟩ := Turn.runOne_file_eq_ok_iff.mp hone
      let p' := p.add target { p.world with files := t.after p.world.files } t.report
      obtain ⟨done, others, h⟩ := ih hrest p'
      have hrun : a.runJobs config p ((target, .file path) :: rest) = a.runJobs config p' rest := by
        rw [runJobs, hone]
      refine ⟨t :: done, others, ?_⟩
      rw [hrun]
      have hpairs : (target, .file path) :: rest = (t :: done).map Turn.pair ++ others := by
        rw [List.map_cons, List.cons_append, ht, ← h.pairs]
      refine ⟨hpairs, .cons hsucceeds h.turns, h.standard, h.failure, ?_⟩
      intro hnone
      rw [h.success hnone, failures, failures, List.map_cons, List.sum_cons, ← Nat.add_assoc]
      rfl

/-! ### What is refused -/

/-- All files that a run reads can be read. -/
structure Readable (a : Arguments) (files : Files) : Prop where
  sources : ∀ path ∈ a.job.sources, files.isFile path
  folder : ∀ folder, a.docFolder? = some folder → files.isFolder folder

/-- Why a run does not begin. The first reason that applies counts. -/
inductive Refuses (a : Arguments) (files : Files) : ExitCode → Prop
  | countMismatch (hcount : a.targets.length ≠ a.destinations.length) : Refuses a files ⟨4⟩
  | unknownTarget (hcount : a.targets.length = a.destinations.length)
      (htarget : ∃ target ∈ a.targets, ¬Generator.isKnown target) : Refuses a files ⟨6⟩
  | unreadableFile (hcount : a.targets.length = a.destinations.length)
      (htarget : ∀ target ∈ a.targets, Generator.isKnown target) (hfiles : ¬a.Readable files) : Refuses a files ⟨5⟩
  | badConfig (hcount : a.targets.length = a.destinations.length)
      (htarget : ∀ target ∈ a.targets, Generator.isKnown target) (hfiles : a.Readable files) {e : Error}
      (hconfig : a.config files = .error e) : Refuses a files ⟨2⟩

/-- Nothing keeps a run from beginning. -/
structure Accepts (a : Arguments) (files : Files) (config : Config) : Prop where
  count : a.targets.length = a.destinations.length
  targets : ∀ target ∈ a.targets, Generator.isKnown target
  readable : a.Readable files
  config : a.config files = .ok config

theorem targetFault?_eq_none_iff : a.targetFault? = Option.none ↔
    a.targets.length = a.destinations.length ∧ ∀ target ∈ a.targets, Generator.isKnown target := by
  rw [targetFault?]
  split <;> rename_i hcount
  · exact iff_of_false (fun h => nomatch h) fun h => hcount h.1
  · rw [Option.map_eq_none_iff, List.find?_eq_none, and_iff_right (not_not.mp hcount)]
    simp

theorem fileFault?_eq_none_iff : a.fileFault? files = Option.none ↔ a.Readable files := by
  have hpaths : (∀ e ∈ a.files, files.isFile e.2) ↔ ∀ path ∈ a.job.sources, files.isFile path := by
    have hmap : a.job.sources = a.files.map (·.2) := by simp [Arguments.files, Job.sources, job, Function.comp_def]
    rw [hmap, List.forall_mem_map]
  rw [fileFault?]
  split
  · rename_i kind path hfind
    refine iff_of_false (Option.some_ne_none _) fun h => ?_
    have hnot : ¬files.isFile path := by simpa using List.find?_some hfind
    exact hnot (hpaths.mpr h.sources _ (List.mem_of_find?_eq_some hfind))
  · rename_i hfind
    have hall : ∀ path ∈ a.job.sources, files.isFile path := by
      rw [← hpaths]
      simpa using hfind
    rw [folderFault?]
    split <;> rename_i hfolder
    · split <;> rename_i hisFolder
      · refine iff_of_true rfl ⟨hall, fun _ h => ?_⟩
        cases hfolder.symm.trans h
        exact hisFolder
      · exact iff_of_false (Option.some_ne_none _) fun h => hisFolder (h.folder _ hfolder)
    · refine iff_of_true rfl ⟨hall, fun _ h => ?_⟩
      cases hfolder.symm.trans h

theorem code_of_fileFault? {code : ExitCode} {text : String} (h : a.fileFault? files = some (code, text)) :
    code = ⟨5⟩ := by
  rw [fileFault?] at h
  split at h
  · cases h
    rfl
  · rw [folderFault?] at h
    split at h
    · split at h
      · cases h
      · cases h
        rfl
    · cases h

theorem Accepts.fault?_eq_none (h : a.Accepts files config) : a.fault? files = Option.none := by
  rw [fault?, targetFault?_eq_none_iff.mpr ⟨h.count, h.targets⟩]
  exact fileFault?_eq_none_iff.mpr h.readable

theorem Accepts.run_eq (h : a.Accepts files config) : a.run files = a.runJobs config ⟨⟨files, ""⟩, 0, []⟩ a.pairs := by
  rw [run, h.fault?_eq_none]
  simp only [h.config]

theorem run_of_fault {code : ExitCode} {text : String} (h : a.fault? files = some (code, text)) :
    (a.run files).code = code ∧ (a.run files).world = ⟨files, ""⟩ := by
  rw [run, h]
  exact ⟨rfl, rfl⟩

theorem run_of_targetFault {code : ExitCode} {text : String} (h : a.targetFault? = some (code, text)) :
    (a.run files).code = code ∧ (a.run files).world = ⟨files, ""⟩ := by
  have hfault : a.fault? files = some (code, text) := by rw [fault?, h]
  exact run_of_fault hfault

theorem Refuses.run_eq {code : ExitCode} (h : a.Refuses files code) :
    (a.run files).code = code ∧ (a.run files).world = ⟨files, ""⟩ := by
  cases h with
  | countMismatch hcount =>
    have hfault : a.targetFault? = some (.countMismatch, "number of languages and output files must match") := by
      rw [targetFault?, if_pos hcount]
    exact run_of_targetFault hfault
  | unknownTarget hcount htarget =>
    obtain ⟨target, htarget, hunknown⟩ := htarget
    rcases hfind : a.targets.find? (fun name => !Generator.isKnown name) with _ | name
    · exact absurd (by simpa using List.find?_eq_none.mp hfind target htarget) hunknown
    · have hfault : a.targetFault? = some (.unknownTarget, s!"unknown language: {name}") := by
        rw [targetFault?, if_neg (not_not.mpr hcount), hfind]
        rfl
      exact run_of_targetFault hfault
  | unreadableFile hcount htarget hfiles =>
    have htargets := targetFault?_eq_none_iff.mpr ⟨hcount, htarget⟩
    rcases hfault : a.fileFault? files with _ | ⟨code, text⟩
    · exact absurd (fileFault?_eq_none_iff.mp hfault) hfiles
    · obtain rfl := code_of_fileFault? hfault
      refine run_of_fault (?_ : a.fault? files = some (_, text))
      rw [fault?, htargets]
      exact hfault
  | badConfig hcount htarget hfiles hconfig =>
    have hnone : a.fault? files = Option.none := by
      rw [fault?, targetFault?_eq_none_iff.mpr ⟨hcount, htarget⟩]
      exact fileFault?_eq_none_iff.mpr hfiles
    rw [run, hnone]
    rw [hconfig]
    exact ⟨rfl, rfl⟩

theorem exists_accepts (h : ∀ code, ¬a.Refuses files code) : ∃ config, a.Accepts files config := by
  have hcount : a.targets.length = a.destinations.length := by
    by_contra hne
    exact h _ (.countMismatch hne)
  have htargets : ∀ target ∈ a.targets, Generator.isKnown target := by
    by_contra hnot
    rw [not_forall] at hnot
    obtain ⟨target, hnot⟩ := hnot
    rw [Classical.not_imp] at hnot
    exact h _ (.unknownTarget hcount ⟨target, hnot⟩)
  have hreadable : a.Readable files := by
    by_contra hnot
    exact h _ (.unreadableFile hcount htargets hnot)
  rcases hconfig : a.config files with e | config
  · exact absurd (.badConfig hcount htargets hreadable hconfig) (h _)
  · exact ⟨config, hcount, htargets, hreadable, hconfig⟩

end Arguments

theorem Generator.ofName_eq_ok_iff {files : Files} {docFolder? : Option String} {name : String} {g : Generator} :
    ofName files docFolder? name = .ok g ↔ ofName? files docFolder? name = some g := by
  rw [ofName]
  split <;> rename_i h <;> simp [h]

/-! ### Jobs alone -/

namespace Arguments
variable {a : Arguments} {config : Config} {files files' : Files} {x : Place} {content : Content}

/-- A run reads the file at a place: it is a source or an input, or the functions of R are documented there. -/
def ReadsAt (a : Arguments) (files : Files) (x : Place) : Prop :=
  (∃ path ∈ a.job.sources, files.place path = .ok x) ∨
    "RR" ∈ a.targets ∧ ∃ folder, a.docFolder? = some folder ∧ Docs.Documents files folder x

/-- The same run for one target alone. -/
def only (a : Arguments) (target path : String) : Arguments :=
  { a with targets := [target], destinations := [.file path] }

section
variable (hx : files.node? x ≠ some .folder) (ha : a.Readable files)
include hx ha

theorem Readable.put : a.Readable (files.put x (.file content)) where
  sources path hpath := Files.isFile_put hx (ha.sources path hpath)
  folder folder hfolder := by
    rw [(Files.sameFolders_put hx content).isFolder_eq]
    exact ha.folder folder hfolder

variable (hapart : ¬a.ReadsAt files x)
include hapart

theorem ReadsAt.of_put {y : Place} (h : a.ReadsAt (files.put x (.file content)) y) : a.ReadsAt files y := by
  rcases h with ⟨path, hpath, hplace⟩ | ⟨hr, folder, hfolder, hdocuments⟩
  · exact .inl ⟨path, hpath, (Files.sameFolders_put hx content).place_eq_ok_iff.mp hplace⟩
  · have hnot : ¬Docs.Documents files folder x := fun h => hapart (.inr ⟨hr, folder, hfolder, h⟩)
    exact .inr ⟨hr, folder, hfolder, Docs.documents_put hx (ha.folder folder hfolder) hnot hdocuments⟩

/-- A file that the run does not read makes no difference to a job. -/
theorem succeeds_of_put {t : Turn} (htarget : t.target ∈ a.targets)
    (h : t.Succeeds a config (files.put x (.file content))) : t.Succeeds a config files := by
  have hfolders := Files.sameFolders_put hx content
  have hread : ∀ path ∈ a.job.sources, files.read path = (files.put x (.file content)).read path := fun path hpath =>
    (Files.read_put hx (fun hplace => hapart (.inl ⟨path, hpath, hplace⟩)) (ha.sources path hpath)).symm
  have hdocs : t.target = "RR" → ∀ folder, a.docFolder? = some folder →
      Docs.readFolder (files.put x (.file content)) folder = Docs.readFolder files folder := by
    intro hr folder hfolder
    have hnot : ¬Docs.Documents files folder x := fun h => hapart (.inr ⟨hr ▸ htarget, folder, hfolder, h⟩)
    exact Docs.readFolder_put hx (ha.folder folder hfolder) hnot
  obtain ⟨g, hg, hreport⟩ := h.generates
  obtain ⟨g', hg', hname, hgenerate⟩ := Generator.exists_generate_eq (Generator.ofName_eq_ok_iff.mp hg) hdocs
  refine ⟨⟨g', Generator.ofName_eq_ok_iff.mpr hg', ?_⟩, ?_, hfolders.fileSlot_eq_ok_iff.mp h.slot⟩
  · rw [← hreport]
    exact Job.report_congr hread hname hgenerate
  · rw [← hfolders.isFolder_eq]
    exact h.folder

end

end Arguments

/-- Every job does what it would have done at the beginning, if no job writes what the run reads. -/
theorem Turns.succeeds_of_apart {a : Arguments} {config : Config} {files files' : Files} {ts : List Turn}
    (h : Turns a config files ts files') (ha : a.Readable files)
    (hapart : ∀ t ∈ ts, t.target ∈ a.targets ∧ ¬a.ReadsAt files t.place) : ∀ t ∈ ts, t.Succeeds a config files := by
  induction h with
  | nil => exact fun _ ht => nomatch ht
  | @cons files files' t ts h hrest ih =>
    rw [List.forall_mem_cons] at hapart
    obtain ⟨⟨-, hhead⟩, htail⟩ := hapart
    have hafter : ∀ u ∈ ts, u.target ∈ a.targets ∧ ¬a.ReadsAt (t.after files) u.place := fun u hu =>
      ⟨(htail u hu).1, fun hread => (htail u hu).2 (hread.of_put h.free ha hhead)⟩
    refine List.forall_mem_cons.mpr ⟨h, fun u hu => ?_⟩
    exact Arguments.succeeds_of_put h.free ha hhead (htail u hu).1 (ih (ha.put h.free) hafter u hu)

namespace Arguments
variable {a : Arguments} {config : Config} {files : Files}

/-- A job that succeeds at the beginning also does so in a run of its own. -/
theorem run_only {t : Turn} (h : a.Accepts files config) (htarget : t.target ∈ a.targets)
    (ht : t.Succeeds a config files) :
    ((a.only t.target t.path).run files).world.files.readText t.path = .ok t.report.text ∧
      ((a.only t.target t.path).run files).code ∈ [⟨0⟩, ⟨3⟩] := by
  have hknown := h.targets t.target htarget
  have haccepts : (a.only t.target t.path).Accepts files config :=
    ⟨rfl, fun target ht => List.mem_singleton.mp ht ▸ hknown, ⟨h.readable.sources, h.readable.folder⟩, h.config⟩
  have halone : t.Succeeds (a.only t.target t.path) config files := ⟨ht.generates, ht.folder, ht.slot⟩
  have hone : (a.only t.target t.path).runOne config ⟨files, ""⟩ (t.target, .file t.path) =
      .ok (⟨t.after files, ""⟩, t.report) := Turn.runOne_file_eq_ok_iff.mpr ⟨t, rfl, rfl, halone, rfl⟩
  have htext : (t.after files).readText t.path = .ok t.report.text :=
    Turns.readText_of_mem (.cons halone (.nil _)) (List.pairwise_singleton _ _) List.mem_cons_self
  have hpairs : (a.only t.target t.path).pairs = [(t.target, .file t.path)] := rfl
  rw [haccepts.run_eq, hpairs, runJobs, hone]
  obtain ⟨hworld, hcode⟩ := runJobs_nil (a.only t.target t.path) config
    ((⟨⟨files, ""⟩, 0, []⟩ : Progress).add t.target ⟨t.after files, ""⟩ t.report)
  refine ⟨hworld ▸ htext, ?_⟩
  rw [hcode]
  split
  · exact List.mem_cons_of_mem _ List.mem_cons_self
  · exact List.mem_cons_self

/-! ### Whole runs -/

/-- The destinations are files, and no two of them are the same file. -/
def DistinctFiles (a : Arguments) (files : Files) : Prop :=
  ∃ paths : List String, a.destinations = paths.map .file ∧
    paths.Pairwise fun p q => ∀ x, files.fileSlot p = .ok x → files.fileSlot q ≠ .ok x

/-- What a run that is not refused has done. Its jobs have had their turns up to the first that fails; `rest` is that
one with all after it. -/
structure Completes (a : Arguments) (files : Files) (config : Config) (out : Outcome) (done : List Turn)
    (rest : List (String × Destination)) : Prop where
  pairs : a.pairs = done.map Turn.pair ++ rest
  turns : Turns a config files done out.world.files
  standard : out.world.standard = ""
  /-- Every job before the failing one has its text at its destination. -/
  written : ∀ t ∈ done, out.world.files.readText t.path = .ok t.report.text
  /-- The destinations of the failing job and of all later ones are as before. -/
  unwritten : ∀ target path, (target, .file path) ∈ rest → ∀ x, files.fileSlot path = .ok x →
    out.world.files.node? x = files.node? x
  /-- Nothing else is written. -/
  others : ∀ x, (∀ t ∈ done, files.fileSlot t.path ≠ .ok x) → out.world.files.node? x = files.node? x
  failure : ∀ pair others, rest = pair :: others → (∃ e, a.runOne config out.world pair = .error e) ∧ out.code = ⟨1⟩
  success : rest = [] →
    out.code = if config.failOnDiagnostics = true ∧ ∃ t ∈ done, t.report.diagnostics ≠ [] then ⟨3⟩ else ⟨0⟩
  /-- A run for one of these jobs alone gives the same text, if no destination is a file that is read. -/
  alone : (∀ path, .file path ∈ a.destinations → ∀ x, files.fileSlot path = .ok x → ¬a.ReadsAt files x) →
    ∀ t ∈ done, ((a.only t.target t.path).run files).world.files.readText t.path = .ok t.report.text ∧
      ((a.only t.target t.path).run files).code ∈ [⟨0⟩, ⟨3⟩]

/-- A run that is refused leaves everything as it is; any other completes its jobs up to the first that fails. -/
structure Safe (a : Arguments) (files : Files) (out : Outcome) : Prop where
  refused : ∀ code, a.Refuses files code → out.code = code ∧ out.world = ⟨files, ""⟩
  accepted : (∀ code, ¬a.Refuses files code) →
    ∃ config done rest, a.config files = .ok config ∧ a.Completes files config out done rest

/-- No two jobs have the same slot. -/
theorem DistinctFiles.pairwise_pairs (h : a.DistinctFiles files) (hcount : a.targets.length = a.destinations.length) :
    (∀ pair ∈ a.pairs, ∃ path, pair.2 = .file path) ∧ a.pairs.Pairwise fun p q => ∀ path path', p.2 = .file path →
      q.2 = .file path' → ∀ x, files.fileSlot path = .ok x → files.fileSlot path' ≠ .ok x := by
  obtain ⟨paths, hpaths, hpairwise⟩ := h
  have hmap : a.pairs.map (·.2) = paths.map .file := by
    rw [pairs, List.map_snd_zip (Nat.le_of_eq hcount.symm), hpaths]
  constructor
  · intro pair hpair
    have hmem : pair.2 ∈ paths.map Destination.file := hmap ▸ List.mem_map_of_mem hpair
    obtain ⟨path, -, hpath⟩ := List.mem_map.mp hmem
    exact ⟨path, hpath.symm⟩
  · have hdestinations : (paths.map Destination.file).Pairwise fun d d' => ∀ path path', d = .file path →
        d' = .file path' → ∀ x, files.fileSlot path = .ok x → files.fileSlot path' ≠ .ok x := by
      refine List.pairwise_map.mpr (hpairwise.imp ?_)
      rintro p q hpq _ _ ⟨⟩ ⟨⟩
      exact hpq
    rw [← hmap] at hdestinations
    exact List.pairwise_map.mp hdestinations

theorem failures_pos_iff {ts : List Turn} : failures ts > 0 ↔ ∃ t ∈ ts, t.report.diagnostics ≠ [] := by
  induction ts with
  | nil => simp [failures]
  | cons t ts ih =>
    have hcons : failures (t :: ts) = t.report.diagnostics.length + failures ts := by
      rw [failures, failures, List.map_cons, List.sum_cons]
    rw [hcons, List.exists_mem_cons_iff, ← ih, ← List.length_pos_iff]
    omega

theorem Accepts.exists_completes (h : a.Accepts files config) (hdistinct : a.DistinctFiles files) :
    ∃ done rest, a.Completes files config (a.run files) done rest := by
  obtain ⟨hfiles, hpairwise⟩ := hdistinct.pairwise_pairs h.count
  obtain ⟨done, rest, hcarries⟩ := exists_carriesOut a config hfiles ⟨⟨files, ""⟩, 0, []⟩
  rw [← h.run_eq] at hcarries
  have hturns : Turns a config files done (a.run files).world.files := hcarries.turns
  rw [hcarries.pairs, List.pairwise_append] at hpairwise
  obtain ⟨hdone, -, hcross⟩ := hpairwise
  have hnodup : (done.map (·.place)).Nodup := by
    refine List.pairwise_map.mpr ((List.pairwise_map.mp hdone).imp_of_mem fun {t u} ht hu hapart heq => ?_)
    exact hapart t.path u.path rfl rfl t.place (hturns.slot ht) (heq ▸ hturns.slot hu)
  have hothers : ∀ x, (∀ t ∈ done, files.fileSlot t.path ≠ .ok x) →
      (a.run files).world.files.node? x = files.node? x := by
    intro x hx
    refine hturns.node?_of_not_mem fun hmem => ?_
    obtain ⟨t, ht, rfl⟩ := List.mem_map.mp hmem
    exact hx t ht (hturns.slot ht)
  refine ⟨done, rest, hcarries.pairs, hturns, hcarries.standard, fun t ht => hturns.readText_of_mem hnodup ht, ?_,
    hothers, hcarries.failure, ?_, ?_⟩
  · intro target path hmem x hslot
    refine hothers x fun t ht hx => ?_
    exact hcross t.pair (List.mem_map_of_mem ht) _ hmem t.path path rfl rfl x hx hslot
  · intro hnone
    rw [hcarries.success hnone]
    refine if_congr ?_ rfl rfl
    rw [Nat.zero_add, failures_pos_iff, and_comm]
  · intro hapart t ht
    have hmem : ∀ u ∈ done, u.target ∈ a.targets ∧ ¬a.ReadsAt files u.place := by
      intro u hu
      have hpair : (u.target, .file u.path) ∈ a.pairs :=
        hcarries.pairs ▸ List.mem_append_left _ (List.mem_map_of_mem hu)
      obtain ⟨htarget, hdestination⟩ := List.of_mem_zip hpair
      exact ⟨htarget, hapart u.path hdestination u.place (hturns.slot hu)⟩
    exact run_only h (hmem t ht).1 (hturns.succeeds_of_apart h.readable hmem t ht)

/-- Whatever the arguments ask for and the files hold, a run is safe. -/
theorem safe_of_distinctFiles (h : a.DistinctFiles files) : a.Safe files (a.run files) where
  refused _ hrefuses := hrefuses.run_eq
  accepted hnone := by
    obtain ⟨config, haccepts⟩ := exists_accepts hnone
    obtain ⟨done, rest, hcompletes⟩ := haccepts.exists_completes h
    exact ⟨config, done, rest, haccepts.config, hcompletes⟩

/-- The first job writes its output; the folder for the output of the second does not exist. -/
theorem safe_of_distinctFiles_two :
    let files : Files := ⟨[(["functions"], .file (.text "f:\n    PARAMS: INT a\n")),
      (["types"], .file (.text "INT:\n    CTYPE: int\nERROR:\n"))]⟩
    let a : Arguments := { Arguments.none with
      functionFiles := ["functions"]
      typeFiles := ["types"]
      targets := ["RC", "ShellLn"]
      destinations := [.file "f.c", .file "links/names"] }
    a.DistinctFiles files ∧ (a.run files).code = ⟨1⟩ ∧ (a.run files).world.files.isFile "f.c" ∧
      a.Safe files (a.run files) := by
  intro files a
  have hfails : (files.fileSlot "links/names").toOption = Option.none := by decide +kernel
  have hsecond : ∀ x, files.fileSlot "links/names" ≠ .ok x := by
    intro x hx
    rw [hx] at hfails
    cases hfails
  have hdistinct : a.DistinctFiles files := ⟨["f.c", "links/names"], rfl, by simp [hsecond]⟩
  exact ⟨hdistinct, by decide +kernel, by decide +kernel, safe_of_distinctFiles hdistinct⟩

end Arguments
end Bindery
