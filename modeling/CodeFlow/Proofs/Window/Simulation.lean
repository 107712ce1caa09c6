import Mathlib
import CodeFlow.Proofs.Job.Simulation
import CodeFlow.Proofs.Window.Search

/-!
# `CodeFlow.Proofs.Window.Simulation` — the simulation switch

With the switch on, a run posts nothing, writes nothing and opens nothing. Unless files that a run writes are
taken for source code, it shows what a real run would hand over to be rendered, whatever the service replies
to the real one.

## Contents
- `Session.Untouched`: what a simulation leaves alone; `steady_untouched`.
- `Counterpart`: a session with the switch off; `inStep_run`.
- `simulation_faithful`.
-/

namespace CodeFlow.Window

open Files Job Selection

/-! ## Simulations -/

/-- Files, the service, what was posted and what was opened are those of a session. -/
structure Session.Untouched (start s : Session) : Prop where
  /-- Nothing was posted or written. -/
  workspace : CodeFlow.Untouched start.workspace s.workspace
  /-- No folder was opened. -/
  launches : s.launches = start.launches

section Untouched
variable {start : Session}

theorem untouched_act {α : Type} {a : Work α} (h : Preserves (CodeFlow.Untouched start.workspace) a) :
    Preserves start.Untouched (act a) :=
  fun s hs => ⟨h s.workspace hs.workspace, hs.launches⟩

theorem untouched_showButton (look : ButtonLook) : Preserves start.Untouched (showButton look) :=
  fun _ h => ⟨h.workspace, h.launches⟩

/-- **A simulated run leaves everything alone** but the controls and the terminal: the folder is not opened. -/
theorem steady_untouched {c : Controls} (hc : c.switches.simulate = true) : Steady c start.Untouched where
  say text := untouched_act (CodeFlow.Untouched.print text)
  ready := untouched_showButton .ready
  takeExtension _ _ := fun _ h => ⟨h.workspace, h.launches⟩
  performGroups exts gs := untouched_act ((Job.steady_untouched (s := settingsOf c exts) hc).performGroups gs)
  openFolder hreal := absurd hc (by simp [hreal])

end Untouched

/-! ## Side by side -/

/-- A session that is the same but for the switch: it may have another service, another launcher and another
history. -/
structure Counterpart (s real : Session) : Prop where
  /-- The fields hold the same. -/
  entries : real.controls.entries = s.controls.entries
  /-- The same engine is chosen. -/
  engine : real.controls.engine = s.controls.engine
  /-- The switches are the same but for that of the simulation, which is off. -/
  switches : real.controls.switches = { s.controls.switches with simulate := false }
  /-- There are the same files. -/
  files : real.workspace.files = s.workspace.files
  /-- There are the same numbers to hand out. -/
  supply : real.workspace.supply = s.workspace.supply

/-- Two sessions before anything is drawn, with what was handed over before. -/
structure Poised (e : Entries) (before before' : List Handover) (s s' : Session) : Prop where
  entries : s.controls.entries = e
  entries' : s'.controls.entries = e
  files : s'.workspace.files = s.workspace.files
  supply : s'.workspace.supply = s.workspace.supply
  handovers : s.workspace.handovers = before
  handovers' : s'.workspace.handovers = before'

section Alike
variable {e : Entries} {before before' : List Handover}

/-- The workspaces of two sessions are alike. -/
def InStep (before before' : List Handover) (s s' : Session) : Prop :=
  Alike before before' s.workspace s'.workspace

theorem Poised.inStep {s s' : Session} (h : Poised e before before' s s') : InStep before before' s s' where
  files := h.files ▸ FileTree.Beside.refl _
  supply := h.supply
  handovers := ⟨[], by simp [h.handovers], by simp [h.handovers']⟩

theorem Poised.say (text text' : String) : Coupled (Poised e before before') (Window.say text)
    (Window.say text') fun _ _ => Poised e before before' :=
  fun _ _ h => ⟨h.entries, h.entries', h.files, h.supply, h.handovers, h.handovers'⟩

theorem inStep_act {α : Type} {a b : Work α}
    (h : Coupled (Alike before before') a b fun _ _ => Alike before before') :
    Coupled (InStep before before') (act a) (act b) fun _ _ => InStep before before' :=
  fun s s' hs => h s.workspace s'.workspace hs

theorem inStep_say (text text' : String) : Coupled (InStep before before') (say text) (say text')
    fun _ _ => InStep before before' :=
  inStep_act (Alike.print text text')

theorem inStep_showButton (look : ButtonLook) : Coupled (InStep before before') (showButton look)
    (showButton look) fun _ _ => InStep before before' :=
  fun _ _ h => h

/-- Whether the folder is opened makes no difference. -/
theorem inStep_openFolder {s : Session} (folder : String) :
    Preserves (InStep before before' s) (openFolder folder) := by
  refine Preserves.bind (fun _ h => h) fun x => ?_
  cases x.launcher.failure with
  | some reason => exact fun _ h => ⟨h.files, h.supply, h.handovers⟩
  | none => exact fun _ h => h

theorem poised_takeExtension (base : String) :
    Coupled (Poised e before before') (takeExtension base) (takeExtension base)
      fun _ _ => Poised { e with exts := (extensionOf? base).getD e.exts } before before' := by
  rintro s s' ⟨rfl, hentries, hfiles, hsupply, hbefore, hbefore'⟩
  unfold takeExtension
  cases extensionOf? base with
  | none => exact ⟨rfl, hentries, hfiles, hsupply, hbefore, hbefore'⟩
  | some ext =>
      refine ⟨rfl, ?_, hfiles, hsupply, hbefore, hbefore'⟩
      change s'.controls.entries.put ext .exts = _
      rw [hentries]
      rfl

theorem inStep_performSeeds {exts : List (List Char)} (hexts : Sources exts) (output engine : String)
    {seeds : List String} (hseeds : ∀ seed ∈ seeds, ¬IsOutput seed.toList) :
    Coupled (InStep before before') (performSeeds ⟨exts, output, engine, true⟩ seeds)
      (performSeeds ⟨exts, output, engine, false⟩ seeds) fun _ _ => InStep before before' := by
  unfold performSeeds
  split_ifs
  · exact (inStep_say _ _).bind fun _ _ => Coupled.pure fun _ _ h => h
  · refine inStep_act (alike_performGroups rfl rfl hexts fun g hg seed hseed => ?_)
    exact hseeds seed (mem_of_mem_groups hg seed hseed)

section Runs
variable {c c' : Controls} (hsim : c.switches.simulate = true) (hentries : c'.entries = c.entries)
  (hengine : c'.engine = c.engine) (hswitches : c'.switches = { c.switches with simulate := false })

include hsim hentries hengine hswitches

theorem inStep_processFolder (folder : String) (f : NameFilter)
    (hexts : Sources (extensions ((extensionOf? f.base).getD e.exts))) :
    Coupled (Poised e before before') (processFolder folder f c) (processFolder folder f c')
      fun _ _ => InStep before before' := by
  refine (poised_takeExtension f.base).bind fun _ _ => Coupled.get_bind fun x y h => ?_
  simp only [h.entries, h.entries', h.files, hsim, hentries, hengine, hswitches]
  -- both search the same files, since nothing was written so far
  cases hseeds : seeds x.workspace.files (extensions ((extensionOf? f.base).getD e.exts))
      c.switches.recursive f folder with
  | error e =>
      refine Coupled.pre ?_ fun _ _ h => Poised.inStep h
      exact (inStep_say _ _).bind fun _ _ => Coupled.pure fun _ _ h => h
  | ok paths =>
      have hsources : ∀ seed ∈ paths, ¬IsOutput seed.toList := by
        intro seed hseed
        obtain ⟨d, n, rfl, hext⟩ := exists_of_mem_seeds hseeds seed hseed
        exact hexts.not_isOutput hext (suffix_join d n)
      refine Coupled.pre ?_ fun _ _ h => Poised.inStep h
      refine (inStep_performSeeds hexts _ _ hsources).bind fun made made' => ?_
      rw [if_neg (by simp)]
      split_ifs
      · exact Coupled.of_preserves fun _ => (inStep_openFolder folder).bind fun _ => preserves_pure _
      · exact Coupled.pure fun _ _ h => h

theorem inStep_runBody (files : FileTree) (hexts : Sources (sourceExtensions c.entries)) :
    Coupled (Poised c.entries before before') (runBody c files) (runBody c' files)
      fun _ _ => InStep before before' := by
  have hrange : rangeOf? c' = rangeOf? c := by
    unfold rangeOf?
    rw [hswitches, hentries]
  have hrefused : ∀ text, Coupled (Poised c.entries before before')
      (say text >>= fun _ => showButton .ready >>= fun _ => (pure [] : Task (List Product)))
      (say text >>= fun _ => showButton .ready >>= fun _ => (pure [] : Task (List Product)))
      fun _ _ => InStep before before' := by
    intro text
    refine Coupled.pre ?_ fun _ _ h => Poised.inStep h
    exact (inStep_say text text).bind fun _ _ =>
      (inStep_showButton _).bind fun _ _ => Coupled.pure fun _ _ h => h
  unfold runBody
  rw [hrange]
  cases rangeOf? c with
  | none => exact hrefused _
  | some range =>
      obtain ⟨first, last⟩ := range
      simp only [hentries]
      refine Coupled.bind (Q := fun _ _ => Poised c.entries before before') ?_ fun _ _ => ?_
      · exact (Poised.say _ _).bind fun _ _ => (Poised.say _ _).bind fun _ _ => Poised.say _ _
      · split_ifs
        · exact inStep_processFolder hsim hentries hengine hswitches _ _ hexts
        · exact hrefused _

end Runs

/-- **A simulated run and its counterpart hand over the same diagrams.** -/
theorem inStep_run {s real : Session} (hsim : s.controls.switches.simulate = true)
    (hreal : Counterpart s real) (hexts : Sources (sourceExtensions s.controls.entries)) :
    InStep s.workspace.handovers real.workspace.handovers (run.run s).2 (run.run real).2 := by
  have hbody : Coupled (Poised s.controls.entries s.workspace.handovers real.workspace.handovers)
      (runBody s.controls s.workspace.files) (runBody real.controls s.workspace.files)
      fun _ _ => InStep s.workspace.handovers real.workspace.handovers :=
    inStep_runBody hsim hreal.entries hreal.engine hreal.switches s.workspace.files hexts
  have hrun := (hbody.bind fun made made' =>
    (inStep_showButton .ready).bind fun _ _ => Coupled.pure (x := made) (y := made') fun _ _ h => h) s real
    ⟨rfl, hreal.entries, hreal.files, hreal.supply, rfl, rfl⟩
  rw [run_run, run_run, hreal.files]
  exact hrun

end Alike

/-- **Simulation is without effect and faithful.** A simulated run, or the button, posts nothing, changes no
file and opens no folder. If what runs write has none of the extensions of source files, the diagrams that it
hands over to be rendered, with their paths, are those of a real run of the same window on the same files with
the same numbers, whatever the service replies there and whatever can be written. -/
theorem simulation_faithful {s : Session} (hsim : s.controls.switches.simulate = true) :
    (s.Untouched (run.run s).2 ∧ s.Untouched (click.run s).2) ∧
    ∀ real, Counterpart s real → ['.', 'p', 'd', 'f'] ∉ sourceExtensions s.controls.entries →
      ['.', 'd', 'o', 't'] ∉ sourceExtensions s.controls.entries →
      (∃ h, (run.run s).2.workspace.handovers = s.workspace.handovers ++ h ∧
        (run.run real).2.workspace.handovers = real.workspace.handovers ++ h) ∧
      ∃ h, (click.run s).2.workspace.handovers = s.workspace.handovers ++ h ∧
        (click.run real).2.workspace.handovers = real.workspace.handovers ++ h := by
  have hstart : s.Untouched s := ⟨CodeFlow.Untouched.refl _, rfl⟩
  have hbusy : ((showButton .busy).run s).2.controls.switches.simulate = true := hsim
  refine ⟨⟨(steady_untouched hsim).run hstart, ?_⟩, fun real hreal hpdf hdot => ?_⟩
  · rw [run_click]
    exact (steady_untouched hbusy).run (untouched_showButton .busy s hstart)
  · have hexts : Sources (sourceExtensions s.controls.entries) :=
      ⟨fun _ => isExtension_extensions, hpdf, hdot⟩
    refine ⟨(inStep_run hsim hreal hexts).handovers, ?_⟩
    have hclick : Counterpart ((showButton .busy).run s).2 ((showButton .busy).run real).2 :=
      ⟨hreal.entries, hreal.engine, hreal.switches, hreal.files, hreal.supply⟩
    rw [run_click, run_click]
    exact (inStep_run hbusy hclick hexts).handovers

/-- A window with the switch on, for a folder with one file. -/
def rehearsal : Session where
  workspace := { files := ({} : FileTree).build [("p/a.c", .file (.text "x;"))] }
  controls := { entries := { path := "p", exts := "c" }, switches := { simulate := true } }

/-- The same window with the switch off, and a service that refuses what it gets. -/
def refusal : Session where
  workspace :=
    { files := ({} : FileTree).build [("p/a.c", .file (.text "x;"))]
      service := { replies := [.response 400 (.text "")] } }
  controls := { entries := { path := "p", exts := "c" } }

/-- The real run hands over what the simulated one does, though the service refuses it. -/
theorem rehearsal_faithful :
    rehearsal.controls.switches.simulate = true ∧ Counterpart rehearsal refusal ∧
    (run.run rehearsal).2.workspace.handovers.map (·.path) = ["p/Diagrama_a.pdf"] ∧
    (run.run refusal).2.workspace.handovers = (run.run rehearsal).2.workspace.handovers := by
  have hreal : Counterpart rehearsal refusal := ⟨rfl, rfl, rfl, rfl, rfl⟩
  obtain ⟨-, hfaithful⟩ := simulation_faithful (s := rehearsal) rfl
  obtain ⟨⟨h, hsimulated, hrefused⟩, -⟩ := hfaithful refusal hreal (by decide +kernel) (by decide +kernel)
  refine ⟨rfl, hreal, by decide +kernel, ?_⟩
  have hbefore : refusal.workspace.handovers = rehearsal.workspace.handovers := rfl
  rw [hrefused, hsimulated, hbefore]

end CodeFlow.Window
