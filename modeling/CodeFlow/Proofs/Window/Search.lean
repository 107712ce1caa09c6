import Mathlib
import CodeFlow.Proofs.Outcome
import CodeFlow.Proofs.Selection
import CodeFlow.Proofs.Window.Invariant

/-!
# `CodeFlow.Proofs.Window.Search` — what a run finds, and what it does with it

A run that gets as far as its seeds makes their diagrams, and prints before and after. This module says what the
run found by the controls alone, and takes the run apart at that point.

## Contents
- `sourceExtensions`: the extensions that a run goes by.
- `discovered?`: what a run finds, in the order of the search.
- `RunTakes`: what a run does with some files; `runTakes_of_discovered`.
-/

namespace CodeFlow.Window

open Files Selection

/-- The extensions that a run goes by: the one that the name filter brings along, or else those entered. -/
def sourceExtensions (e : Entries) : List (List Char) :=
  extensions ((extensionOf? (trimmed e.base)).getD e.exts)

/-- The files that a run takes, in the order in which it comes by them. None if it does not get that far: a
field of the range is no number, the folder is not there, or the search fails. -/
def discovered? (s : Session) : Option (List String) :=
  let files := s.workspace.files
  let folder := folderOf s.controls.entries
  (rangeOf? s.controls).bind fun range =>
    if files.hasPath folder then
      (candidates files (sourceExtensions s.controls.entries) s.controls.switches.recursive folder).toOption.bind
        fun paths => (chosen ⟨trimmed s.controls.entries.base, range.1, range.2⟩ paths).toOption
    else none

theorem discovered?_eq_some {s : Session} {found : List String} (h : discovered? s = some found) :
    ∃ range paths, rangeOf? s.controls = some range ∧
      s.workspace.files.hasPath (folderOf s.controls.entries) = true ∧
      candidates s.workspace.files (sourceExtensions s.controls.entries) s.controls.switches.recursive
        (folderOf s.controls.entries) = .ok paths ∧
      chosen ⟨trimmed s.controls.entries.base, range.1, range.2⟩ paths = .ok found := by
  unfold discovered? at h
  obtain ⟨range, hrange, h⟩ := Option.bind_eq_some_iff.1 h
  split_ifs at h with hpath
  obtain ⟨paths, hpaths, h⟩ := Option.bind_eq_some_iff.1 h
  exact ⟨range, paths, hrange, hpath, eq_ok_of_toOption hpaths, eq_ok_of_toOption h⟩

/-! ## Before and after the seeds -/

/-- A session with another terminal. -/
def Session.printing (s : Session) (t : Terminal) : Session :=
  { s with workspace := { s.workspace with terminal := t } }

@[simp]
theorem Session.printing_controls (s : Session) (t : Terminal) : (s.printing t).controls = s.controls := rfl

@[simp]
theorem Session.printing_workspace (s : Session) (t : Terminal) :
    (s.printing t).workspace = { s.workspace with terminal := t } := rfl

theorem exists_run_announce (folder : String) (f : NameFilter) (simulate : Bool) (s : Session) :
    ∃ t, (announce folder f simulate).run s = ((), s.printing t) := ⟨_, rfl⟩

theorem exists_run_openFolder (folder : String) (s : Session) :
    ∃ t launches, (openFolder folder).run s = ((), { s.printing t with launches := launches }) := by
  rw [openFolder, StateT.run_bind, StateT.run_get, pure_bind]
  cases s.launcher.failure with
  | some reason => exact ⟨_, _, rfl⟩
  | none => exact ⟨s.workspace.terminal, _, rfl⟩

theorem run_takeExtension (base : String) (s : Session) :
    (takeExtension base).run s = ((), { s with controls := { s.controls with
      entries := { s.controls.entries with exts := (extensionOf? base).getD s.controls.entries.exts } } }) := by
  unfold takeExtension
  cases extensionOf? base <;> rfl

/-- Making the button ready leaves the workspace alone. -/
theorem run_eq (s : Session) :
    (run.run s).1 = ((runBody s.controls s.workspace.files).run s).1 ∧
      (run.run s).2.workspace = ((runBody s.controls s.workspace.files).run s).2.workspace := by
  have hready : ∀ (a : Task (List Job.Product)),
      ((a >>= fun made => showButton .ready >>= fun _ => pure made).run s).1 = (a.run s).1 ∧
      ((a >>= fun made => showButton .ready >>= fun _ => pure made).run s).2.workspace =
        (a.run s).2.workspace := fun _ => ⟨rfl, rfl⟩
  rw [run_run]
  exact hready _

/-- What is done in a folder of which the seeds are known: their diagrams are made, and it may be opened. -/
theorem run_processFolder (folder : String) (f : NameFilter) (seeds : List String) {s : Session}
    (hseeds : Selection.seeds s.workspace.files (extensions ((extensionOf? f.base).getD s.controls.entries.exts))
      s.controls.switches.recursive f folder = .ok seeds) (hne : seeds ≠ []) :
    ∃ t, let r := (Job.performGroups (settingsOf s.controls
        (extensions ((extensionOf? f.base).getD s.controls.entries.exts))) (groups seeds)).run s.workspace
      ((processFolder folder f s.controls).run s).1 = r.1 ∧
        ((processFolder folder f s.controls).run s).2.workspace = { r.2 with terminal := t } := by
  have hnonempty : ¬seeds.isEmpty = true := by simpa using hne
  unfold processFolder
  rw [run_bind_of_eq (run_takeExtension f.base s), run_bind_of_eq (a := get) rfl]
  simp only [hseeds, performSeeds, if_neg hnonempty]
  rw [run_bind_of_eq (a := act _) rfl]
  split_ifs
  · obtain ⟨t, launches, hopen⟩ := exists_run_openFolder folder _
    rw [run_bind_of_eq hopen]
    exact ⟨t, rfl, rfl⟩
  · exact ⟨_, rfl, rfl⟩

theorem seeds_of_chosen {t : FileTree} {exts : List (List Char)} {recursive : Bool} {f : NameFilter}
    {folder : String} {paths found : List String} (hpaths : candidates t exts recursive folder = .ok paths)
    (hfound : chosen f paths = .ok found) : seeds t exts recursive f folder = .ok (ordered found) := by
  rw [seeds, hpaths]
  simp only [hfound]

theorem ordered_ne_nil {found : List String} (h : found ≠ []) : ordered found ≠ [] := by
  obtain ⟨p, hp⟩ := List.exists_mem_of_ne_nil found h
  exact List.ne_nil_of_mem (mem_ordered.2 hp)

/-- A run takes some files: it makes their diagrams, folder by folder, from the workspace as it finds it. Besides
that it prints, and it gives back what was made. -/
def RunTakes (s : Session) (found : List String) : Prop :=
  ∃ t t', let r := (Job.performGroups (settingsOf s.controls (sourceExtensions s.controls.entries))
      (groups (ordered found))).run { s.workspace with terminal := t }
    (run.run s).1 = r.1 ∧ (run.run s).2.workspace = { r.2 with terminal := t' }

/-- **A run takes the files that it found.** -/
theorem runTakes_of_discovered {s : Session} {found : List String} (h : discovered? s = some found)
    (hne : found ≠ []) : RunTakes s found := by
  obtain ⟨range, paths, hrange, hpath, hpaths, hfound⟩ := discovered?_eq_some h
  obtain ⟨first, last⟩ := range
  have hseeds := seeds_of_chosen hpaths hfound
  unfold sourceExtensions at hseeds
  unfold RunTakes sourceExtensions
  -- the search starts once the run has said what it is about to do
  obtain ⟨t, hannounce⟩ := exists_run_announce (folderOf s.controls.entries)
    ⟨trimmed s.controls.entries.base, first, last⟩ s.controls.switches.simulate s
  have hprocess := run_processFolder (folderOf s.controls.entries)
    ⟨trimmed s.controls.entries.base, first, last⟩ (ordered found) (s := s.printing t)
  simp only [Session.printing_controls, Session.printing_workspace] at hprocess
  obtain ⟨t', hmade, hworkspace⟩ := hprocess hseeds (ordered_ne_nil hne)
  have hbody : (runBody s.controls s.workspace.files).run s =
      (processFolder (folderOf s.controls.entries) ⟨trimmed s.controls.entries.base, first, last⟩
        s.controls).run (s.printing t) := by
    unfold runBody
    rw [hrange]
    simp only [hpath, if_true]
    exact run_bind_of_eq hannounce
  have hrun := run_eq s
  rw [hbody] at hrun
  refine ⟨t, t', ?_, ?_⟩
  · rw [hrun.1]
    exact hmade
  · rw [hrun.2]
    exact hworkspace

end CodeFlow.Window
