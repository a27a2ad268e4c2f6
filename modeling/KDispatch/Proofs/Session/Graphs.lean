import KDispatch.Proofs.FileSystem.Paths
import KDispatch.Proofs.Kast.Document
import KDispatch.Proofs.Program.ExitStatus

/-!
The import graphs of a definition directory. They are written stage by stage, up to the first stage whose document
does not read as a definition or whose graph cannot be written; the graphs before it are there in full, and nothing
else is different.
-/

namespace KDispatch

open FileSystem (SameBeside)

/-! ## Writing beside changed files

Whether a file can be written is decided by what stands at its place. A file that is written beside the changed
ones can be written before the change exactly if it can be written after it.
-/

namespace FileSystem

variable {fs fs' created : FileSystem} {location : Location} {path : String} {bytes : Bytes}

end FileSystem

/-! ## Rendering stages -/

/-- The document of a stage. -/
def documentPath (directory stage : String) : String := Path.withExtension (Path.join directory stage) "json"

/-- The file for the graph of a stage. -/
def graphPath (directory stage : String) : String := Path.withExtension (Path.join directory stage) "dot"

namespace Session

end Session

/-! ## Stages with files of their own

The graph of an earlier stage may lead to a file that a later stage uses, by a link or under another name. Where it
does not, every stage finds its files as they were before the first one.
-/

/-- Whether a location is a name of the file for the graph of one of the stages. -/
def IsGraph (directory : String) (stages : List String) (fs : FileSystem) (location : Location) : Prop :=
  ∃ stage ∈ stages, ∃ target, fs.locateToCreate (graphPath directory stage) = .ok target ∧
    fs.SameFile target location

/-- Whether no graph of an earlier stage is the document or the graph of a later one. -/
def StagesApart (directory : String) (stages : List String) (fs : FileSystem) : Prop :=
  stages.Pairwise fun earlier later =>
    ∀ path ∈ [documentPath directory later, graphPath directory later], ∀ location,
      fs.locate path = .ok location → ¬ IsGraph directory [earlier] fs location

variable {directory stage : String} {stages rendered rest : List String} {fs written fs' : FileSystem}

theorem isGraph_congr (h : ∀ path location, fs'.locateToCreate path = .ok location ↔
      fs.locateToCreate path = .ok location) (hshared : fs'.shared = fs.shared) {location : Location} :
    IsGraph directory stages fs' location ↔ IsGraph directory stages fs location := by
  simp [IsGraph, h, FileSystem.sameFile_congr hshared]

theorem FileSystem.SameBeside.isGraph_iff {changed : Location → Prop} (h : SameBeside changed fs fs')
    (hshared : fs'.shared = fs.shared) {location : Location} :
    IsGraph directory stages fs' location ↔ IsGraph directory stages fs location :=
  isGraph_congr (fun _ _ => ⟨h.symm.locateToCreate_ok, h.locateToCreate_ok⟩) hshared

theorem StagesApart.of_sameBeside {changed : Location → Prop} (hapart : StagesApart directory stages fs)
    (h : SameBeside changed fs fs') (hshared : fs'.shared = fs.shared) :
    StagesApart directory stages fs' := by
  refine hapart.imp fun hstages path hpath location hlocate => ?_
  rw [h.isGraph_iff hshared]
  exact hstages path hpath location (h.locate_ok_iff.1 hlocate)

namespace Session

end Session

end KDispatch
