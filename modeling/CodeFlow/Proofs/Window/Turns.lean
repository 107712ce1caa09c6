import Mathlib
import CodeFlow.Proofs.Job.Turns
import CodeFlow.Proofs.Selection.Scan
import CodeFlow.Proofs.Window.Search

/-!
# `CodeFlow.Proofs.Window.Turns` — a run takes every file that it found once

A search comes by no file twice. What it found is sorted and taken folder by folder, and each file has its turn.

## Contents
- `run_takes_each_once`; `outing`: a window with a blank file.
-/

namespace CodeFlow.Window

open Files Selection Job

/-- **A run takes every file that it found once.** Whenever a run finds files, it comes by none of them twice, and
each has one turn: folder by folder, the folders in the order of their first files, and the files of a folder by
number with ties as they were found if all files have a number, otherwise by path. At its turn a diagram is generated
of a file, once, if its bundle has a text that is not blank, and otherwise nothing is done; no file is passed over
because a bundle of its folder had it. -/
theorem run_takes_each_once {s : Session} {found : List String}
    (hfound : discovered? s = some found) (hne : found ≠ []) :
    found.Nodup ∧ (inTurn found).Perm found ∧
    (∃ sorted, Arranged found sorted ∧ inTurn found = (foldersOf sorted).flatMap (filesIn sorted)) ∧
    ∃ t t' w, Taken (settingsOf s.controls (sourceExtensions s.controls.entries)) (inTurn found)
        { s.workspace with terminal := t } (run.run s).1 w ∧
      (run.run s).2.workspace = { w with terminal := t' } := by
  obtain ⟨range, paths, -, -, hpaths, hchosen⟩ := discovered?_eq_some hfound
  have hnodup : found.Nodup := (chosen_sublist hchosen).nodup (nodup_candidates hpaths)
  refine ⟨hnodup, perm_inTurn found, ⟨ordered found, arranged_ordered found, inTurn_eq found⟩, ?_⟩
  obtain ⟨t, t', hmade, hworkspace⟩ := runTakes_of_discovered hfound hne
  have hgroups : ∀ g ∈ groups (ordered found), g.files.Nodup := by
    rw [groups_eq]
    intro g hg
    obtain ⟨folder, -, rfl⟩ := List.mem_map.1 hg
    exact ((arranged_ordered found).perm.nodup_iff.2 hnodup).filter _
  refine ⟨t, t', _, ?_, hworkspace⟩
  rw [hmade]
  exact taken_performGroups _ (sorted_groups _) hgroups _

/-- A window for a folder with two files and a third in a folder inside, which is blank. -/
def outing : Session where
  workspace :=
    { files := ({} : FileTree).build
        [("p/b10.c", .file (.text "x;")), ("p/a2.c", .file (.text "y;")), ("p/q/c1.c", .file (.text " "))] }
  controls := { entries := { path := "p", exts := "c" }, switches := { simulate := true, recursive := true } }

/-- The blank file has its turn first, since it has the least number, and is in the bundles of the others. -/
theorem outing_takes_each_once :
    discovered? outing = some ["p/a2.c", "p/b10.c", "p/q/c1.c"] ∧
    inTurn ["p/a2.c", "p/b10.c", "p/q/c1.c"] = ["p/q/c1.c", "p/a2.c", "p/b10.c"] ∧
    (run.run outing).1.map (·.seed) = ["p/a2.c", "p/b10.c"] ∧
    ∃ t t' w, Taken (settingsOf outing.controls (sourceExtensions outing.controls.entries))
        ["p/q/c1.c", "p/a2.c", "p/b10.c"] { outing.workspace with terminal := t } (run.run outing).1 w ∧
      (run.run outing).2.workspace = { w with terminal := t' } := by
  have hfound : discovered? outing = some ["p/a2.c", "p/b10.c", "p/q/c1.c"] := by decide +kernel
  have hturns : inTurn ["p/a2.c", "p/b10.c", "p/q/c1.c"] = ["p/q/c1.c", "p/a2.c", "p/b10.c"] := by
    decide +kernel
  obtain ⟨-, -, -, htaken⟩ := run_takes_each_once hfound (by decide)
  rw [hturns] at htaken
  exact ⟨hfound, hturns, by decide +kernel, htaken⟩

end CodeFlow.Window
