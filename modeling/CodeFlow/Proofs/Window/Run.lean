import Mathlib
import CodeFlow.Proofs.Files.Output
import CodeFlow.Proofs.Job
import CodeFlow.Window.Run

/-!
# `CodeFlow.Proofs.Window.Run` — the diagrams of a run and their paths

A run makes at most one diagram of a seed. Whether two of its diagrams are given one path can be told from
the seeds and the name for diagrams in the window.

## Contents
- `made_run`: what is known of the diagrams of a run.
- `run_paths_distinct_iff`: when no two diagrams of a run are given one path, or one place.
-/

namespace CodeFlow.Window

open Files Job

theorem satisfies_act {α : Type} {p : α → Prop} {a : Work α} (h : SatisfiesM p a) :
    SatisfiesM p (act a) := by
  rw [satisfiesM_run] at h ⊢
  exact fun s => h s.workspace

theorem made_performSeeds (exts : List (List Char)) (output engine : String) (simulate : Bool)
    (seeds : List String) :
    SatisfiesM (Made output) (performSeeds ⟨exts, output, engine, simulate⟩ seeds) := by
  unfold performSeeds
  split_ifs
  · exact satisfiesM_of_forall fun _ => SatisfiesM.pure (made_nil _)
  · exact satisfies_act (made_performGroups ⟨exts, output, engine, simulate⟩ seeds)

theorem made_processFolder (folder : String) (f : NameFilter) (c : Controls) :
    SatisfiesM (Made (outputOf c.entries)) (processFolder folder f c) := by
  refine satisfiesM_of_forall fun _ => satisfiesM_of_forall fun s => ?_
  simp only
  split
  · exact satisfiesM_of_forall fun _ => SatisfiesM.pure (made_nil _)
  · refine (made_performSeeds _ _ _ _ _).bind fun made hmade => ?_
    split_ifs
    · exact satisfiesM_of_forall fun _ => SatisfiesM.pure hmade
    · exact SatisfiesM.pure hmade

theorem made_runBody (c : Controls) (files : FileTree) :
    SatisfiesM (Made (outputOf c.entries)) (runBody c files) := by
  unfold runBody
  split
  · exact satisfiesM_of_forall fun _ => satisfiesM_of_forall fun _ => SatisfiesM.pure (made_nil _)
  · refine satisfiesM_of_forall fun _ => ?_
    split_ifs
    · exact made_processFolder _ _ c
    · exact satisfiesM_of_forall fun _ => satisfiesM_of_forall fun _ => SatisfiesM.pure (made_nil _)

/-- **The diagrams of a run**, with the name for diagrams that the window shows when it starts. -/
theorem made_run (s : Session) : Made (outputOf s.controls.entries) (run.run s).1 := by
  rw [run, StateT.run_bind, StateT.run_get, pure_bind]
  refine satisfiesM_run.1 ?_ s
  exact (made_runBody _ _).bind fun made hmade => satisfiesM_of_forall fun _ => SatisfiesM.pure hmade

theorem nodup_map_iff {α β : Type} {f : α → β} {R : α → α → Prop} {l : List α}
    (h : ∀ x ∈ l, ∀ y ∈ l, f x ≠ f y ↔ R x y) : (l.map f).Nodup ↔ l.Pairwise R := by
  rw [List.Nodup, List.pairwise_map]
  exact List.Pairwise.iff_of_mem fun hx hy => h _ hx _ hy

/-- **When a run keeps its diagrams apart.** No seed is made twice. The paths are distinct just if no two
seeds of which the names keep the same lie in one folder, unless the name for diagrams starts at the root:
then no two may keep the same. A diagram that is written is written at the place of its path, and the
places are distinct just if no two seeds that keep the same have their diagrams go to one folder. -/
theorem run_paths_distinct_iff (s : Session) :
    let made := (run.run s).1
    let output := outputOf s.controls.entries
    (made.map (·.seed)).Nodup ∧
      ((made.map (·.path)).Nodup ↔ made.Pairwise fun p q =>
        ¬(key p.seed = key q.seed ∧ (AtRoot output ∨ parent p.seed = parent q.seed))) ∧
      (∀ p ∈ made, ∀ (t : FileTree) s, t.openForWriting p.path = .ok s → s.location = placeOf p.path) ∧
      ((made.map fun p => placeOf p.path).Nodup ↔ made.Pairwise fun p q =>
        ¬(key p.seed = key q.seed ∧
          placeOf (outputFolder output p.seed) = placeOf (outputFolder output q.seed))) := by
  have hmade := made_run s
  refine ⟨hmade.seeds, nodup_map_iff fun p hp q hq => ?_, fun p _ t s h => ?_,
    nodup_map_iff fun p hp q hq => ?_⟩
  · rw [hmade.paths p hp, hmade.paths q hq, ne_eq, path_eq_iff]
  · exact (FileTree.openForWriting_eq_ok_iff_opened.1 h).location_eq
  · rw [hmade.paths p hp, hmade.paths q hq, ne_eq, place_eq_iff]

/-- A window for a folder with two files of one number. -/
def twins : Session where
  workspace :=
    { files := ({} : FileTree).build
        [("p/a1.py", .file (.text "x = 1")), ("p/b1.py", .file (.text "y = 2"))] }
  controls := { entries := { path := "p" } }

/-- The second diagram is given the path of the first. -/
theorem twins_share_path :
    (run.run twins).1 = [⟨"p/a1.py", "p/Diagrama 1.pdf"⟩, ⟨"p/b1.py", "p/Diagrama 1.pdf"⟩] := by
  decide +kernel

end CodeFlow.Window
