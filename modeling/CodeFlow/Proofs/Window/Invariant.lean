import Mathlib
import CodeFlow.Proofs.Coupling
import CodeFlow.Window.Run

/-!
# `CodeFlow.Proofs.Window.Invariant` — what a run can do

A run of the window prints, may take over an extension, makes the diagrams of some groups of files, may open the
folder and makes the button ready. A property of the session that none of these breaks holds after a run if it
holds before it, whichever way the run ends.

## Contents
- `run_run`, `run_click`: runs by what they find.
- `settingsOf`: what the controls say of the diagrams.
- `Steady`: properties that no step breaks; `Steady.run`.
-/

namespace CodeFlow.Window

open Files Selection

/-- A run goes by the controls and the files that it finds. -/
theorem run_run (s : Session) : run.run s =
    (runBody s.controls s.workspace.files >>= fun made => showButton .ready >>= fun _ => pure made).run s := by
  rw [run, StateT.run_bind, StateT.run_get, pure_bind]

/-- The button changes its look and then runs. -/
theorem run_click (s : Session) : click.run s = run.run ((showButton .busy).run s).2 := by
  rw [click, StateT.run_bind]
  rfl

/-- What the controls say of the diagrams of files with given extensions. -/
def settingsOf (c : Controls) (exts : List (List Char)) : Job.Settings where
  exts := exts
  output := outputOf c.entries
  engine := engineOf c.engine
  simulate := c.switches.simulate

/-- A property of the session that no step of a run breaks. -/
structure Steady (c : Controls) (I : Session → Prop) : Prop where
  /-- Text is printed. -/
  say : ∀ text, Preserves I (say text)
  /-- The button is made ready. -/
  ready : Preserves I (showButton .ready)
  /-- The extension that the name filter brings along is taken over. -/
  takeExtension : ∀ ext, extensionOf? (trimmed c.entries.base) = some ext → Preserves I (setEntry .exts ext)
  /-- Diagrams are made. -/
  performGroups : ∀ exts gs, Preserves I (act (Job.performGroups (settingsOf c exts) gs))
  /-- Unless it is a simulation, the folder is opened. -/
  openFolder : c.switches.simulate = false → Preserves I (openFolder (folderOf c.entries))

namespace Steady
variable {c : Controls} {I : Session → Prop} (h : Steady c I)

include h

theorem performSeeds (exts : List (List Char)) (seeds : List String) :
    Preserves I (performSeeds (settingsOf c exts) seeds) := by
  unfold Window.performSeeds
  split_ifs
  · exact (h.say _).bind fun _ => preserves_pure _
  · exact h.performGroups exts _

theorem processFolder (first last : Option Int) :
    Preserves I (processFolder (folderOf c.entries) ⟨trimmed c.entries.base, first, last⟩ c) := by
  have hexts : Preserves I (Window.takeExtension (trimmed c.entries.base)) := by
    unfold Window.takeExtension
    split
    · exact h.takeExtension _ (by assumption)
    · exact preserves_pure ()
  refine hexts.bind fun _ => Preserves.bind (fun _ hs => hs) fun s => ?_
  simp only
  split
  · exact (h.say _).bind fun _ => preserves_pure _
  · refine (h.performSeeds _ _).bind fun made => ?_
    split_ifs with hopen
    · have hreal : c.switches.simulate = false := by simpa using (Bool.and_eq_true_iff.1 hopen).2
      exact (h.openFolder hreal).bind fun _ => preserves_pure _
    · exact preserves_pure _

theorem runBody (files : FileTree) : Preserves I (runBody c files) := by
  -- both refusals end in the same way
  have hrefused : ∀ text, Preserves I
      (Window.say text >>= fun _ => showButton .ready >>= fun _ => (pure [] : Task (List Job.Product))) :=
    fun text => (h.say text).bind fun _ => h.ready.bind fun _ => preserves_pure _
  unfold Window.runBody
  split
  · exact hrefused _
  · refine Preserves.bind ?_ fun _ => ?_
    · exact (h.say _).bind fun _ => (h.say _).bind fun _ => h.say _
    · split_ifs
      · exact h.processFolder _ _
      · exact hrefused _

end Steady

/-- **What no step breaks, no run breaks.** -/
theorem Steady.run {s : Session} {I : Session → Prop} (h : Steady s.controls I) (hs : I s) :
    I (run.run s).2 := by
  have hrun : Preserves I (Window.runBody s.controls s.workspace.files >>= fun made =>
      showButton .ready >>= fun _ => pure made) :=
    (h.runBody _).bind fun _ => h.ready.bind fun _ => preserves_pure _
  rw [run_run]
  exact hrun s hs

end CodeFlow.Window
