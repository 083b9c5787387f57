import Bindery.Proofs.Files
import Bindery.Proofs.Target.Documentation
import Bindery.Job

/-! # Jobs

A job generates its report from its sources and inputs, and from the documentation if its target asks for it; where
these read the same, the report is the same (`report_congr`). A job whose output is a file writes it to the slot of its
path and does nothing else to the files (`run_file_eq_ok_iff`). -/

namespace Bindery
namespace Job
variable {job : Job} {files files' : Files} {config : Config}

/-- The files that a job reads. -/
def sources (job : Job) : List String := job.typeFiles ++ job.functionFiles ++ job.preamble ++ job.epilogue

section
variable (hread : ∀ path ∈ job.sources, files'.read path = files.read path)
include hread

theorem catalog_congr : job.catalog files' config = job.catalog files config := by
  have htree : ∀ path ∈ job.sources, files'.tree path = files.tree path := by
    intro path hpath
    rw [Files.tree, Files.tree, hread path hpath]
  have hfunctions : ∀ path ∈ job.functionFiles, ∀ c : Catalog,
      settled (c.loadFunctionFile files' path) = settled (c.loadFunctionFile files path) := by
    intro path hpath c
    rw [Catalog.loadFunctionFile, Catalog.loadFunctionFile, htree path (by simp [sources, hpath])]
  have htypes : ∀ path ∈ job.typeFiles, ∀ c : Catalog,
      settled (c.loadTypeFile files' path) = settled (c.loadTypeFile files path) := by
    intro path hpath c
    rw [Catalog.loadTypeFile, Catalog.loadTypeFile, htree path (by simp [sources, hpath])]
  rw [catalog, catalog, foldlM_congr hfunctions]
  simp only [foldlM_congr htypes]

theorem inputs_congr : files'.inputs job.preamble job.epilogue = files.inputs job.preamble job.epilogue := by
  have hinput : ∀ path ∈ job.sources, files'.input path = files.input path := by
    intro path hpath
    rw [Files.input, Files.input, Files.readText, Files.readText, hread path hpath]
  have hpreamble : job.preamble.mapM files'.input = job.preamble.mapM files.input :=
    mapM_congr fun path hpath => hinput path (by simp [sources, hpath])
  have hepilogue : job.epilogue.mapM files'.input = job.epilogue.mapM files.input :=
    mapM_congr fun path hpath => hinput path (by simp [sources, hpath])
  rw [Files.inputs, Files.inputs, hpreamble, hepilogue]

theorem report_congr {g g' : Generator} (hname : g'.target.name = g.target.name)
    (hgenerate : g'.generate = g.generate) : job.report files' config g' = job.report files config g := by
  rw [report, report, catalog_congr hread, inputs_congr hread, hname, hgenerate]

end

/-- The output goes to the slot of the path. -/
theorem run_file_eq_ok_iff {w w' : World} {g : Generator} {path : String} {report : Report} :
    job.run w config g (.file path) = .ok (w', report) ↔ job.report w.files config g = .ok report ∧
      w.files.isFolder (Files.parent path) ∧ ∃ x, w.files.fileSlot path = .ok x ∧
        w' = { w with files := w.files.put x (.file (.text report.text)) } := by
  simp only [run, World.write, bind_eq_ok_iff, map_eq_ok_iff, pure_eq_ok_iff, Files.write_eq_ok_iff, Prod.mk.injEq]
  constructor
  · rintro ⟨report, hreport, _, ⟨_, ⟨hfolder, x, hx, rfl⟩, rfl⟩, rfl, rfl⟩
    exact ⟨hreport, hfolder, x, hx, rfl⟩
  · rintro ⟨hreport, hfolder, x, hx, rfl⟩
    exact ⟨report, hreport, _, ⟨_, ⟨hfolder, x, hx, rfl⟩, rfl⟩, rfl, rfl⟩

end Job
end Bindery
