import Mathlib
import CodeFlow.Proofs.Job.Invariant

/-!
# `CodeFlow.Proofs.Job.Simulation` — simulated runs beside real ones

A simulation prints, takes numbers and hands diagrams over, and touches nothing else. A real run beside it
posts and writes on the way. What it writes is output, which source code is not, so both keep handing over
the same diagrams.

## Contents
- `Untouched`: what a simulation leaves alone; `Job.steady_untouched`.
- `Alike`: what a simulated and a real run have in common; `alike_performGroups`.
-/

namespace CodeFlow

open Files Work

/-! ## Simulations -/

/-- Files, the service and what was posted are those of a workspace. -/
structure Untouched (start w : Workspace) : Prop where
  /-- No file came, went or changed. -/
  files : w.files = start.files
  /-- The service gave no reply. -/
  service : w.service = start.service
  /-- Nothing was posted. -/
  requests : w.requests = start.requests

namespace Untouched

theorem refl (w : Workspace) : Untouched w w := ⟨rfl, rfl, rfl⟩

variable {start : Workspace}

theorem print (text : String) : Preserves (Untouched start) (Work.print text) :=
  fun _ h => ⟨h.files, h.service, h.requests⟩

end Untouched

/-- **A simulation leaves everything alone** but the terminal and the numbers: it neither posts nor writes. -/
theorem Job.steady_untouched {start : Workspace} {s : Settings} (hs : s.simulate = true) :
    Steady s (Untouched start) where
  print := Untouched.print
  charting _ := fun _ h => ⟨h.files, h.service, h.requests⟩
  handOver _ := fun _ h => ⟨h.files, h.service, h.requests⟩
  post hreal := absurd hs (by simp [hreal])
  write hreal := absurd hs (by simp [hreal])

/-! ## Real runs -/

/-- The files are those of a tree with output added, and no numbers were taken. -/
structure OutputOnly (t : FileTree) (supply : Supply) (w : Workspace) : Prop where
  /-- Only output was written. -/
  files : t.Beside w.files
  /-- The numbers to hand out are those given. -/
  supply : w.supply = supply

namespace OutputOnly
variable {t : FileTree} {supply : Supply}

theorem print (text : String) : Preserves (OutputOnly t supply) (Work.print text) :=
  fun _ h => ⟨h.files, h.supply⟩

theorem write {path : String} (hpath : IsOutput path.toList) (content : Content) :
    Preserves (OutputOnly t supply) (Work.write path content) :=
  preserves_write fun _ mishap _ hw => ⟨hw.files.write hpath content mishap, hw.supply⟩

theorem isOutput_debugPath (output : String) : IsOutput (Rendering.debugPath output).toList := by
  refine .inr ⟨output.toList ++ ".debug".toList, ?_⟩
  rw [Rendering.debugPath, String.toList_append, List.append_assoc]
  rfl

/-- Whatever the service replies, only output is written. -/
theorem render (engine diagram : String) {output : String} (houtput : IsOutput output.toList) :
    Preserves (OutputOnly t supply) (Rendering.render false engine diagram output) := by
  refine Preserves.bind (fun _ h => ⟨h.files, h.supply⟩) fun _ => ?_
  refine (print _).bind fun _ => Preserves.bind (fun _ h => ⟨h.files, h.supply⟩) fun reply => ?_
  exact Rendering.preserves_receive print (write houtput) (write (isOutput_debugPath output)) diagram reply

end OutputOnly

/-! ## Side by side -/

/-- A simulated and a real run, with what was handed over before each: they have handed over the same since,
and in the real one output was written. -/
structure Alike (before before' : List Handover) (w w' : Workspace) : Prop where
  /-- The real run has written output at most. -/
  files : w.files.Beside w'.files
  /-- Both have taken the same numbers. -/
  supply : w'.supply = w.supply
  /-- Both have handed over the same. -/
  handovers : ∃ h, w.handovers = before ++ h ∧ w'.handovers = before' ++ h

namespace Alike
variable {before before' : List Handover}

theorem print (text text' : String) :
    Coupled (Alike before before') (Work.print text) (Work.print text') fun _ _ => Alike before before' :=
  fun _ _ h => ⟨h.files, h.supply, h.handovers⟩

theorem charting {α : Type} (a : StateM Supply α) :
    Coupled (Alike before before') (Work.charting a) (Work.charting a)
      fun x y w w' => x = y ∧ Alike before before' w w' := by
  intro w w' h
  have hsame : a.run w'.supply = a.run w.supply := by rw [h.supply]
  have hvalue : (a.run w.supply).1 = (a.run w'.supply).1 := by rw [hsame]
  have hsupply : (a.run w'.supply).2 = (a.run w.supply).2 := by rw [hsame]
  exact ⟨hvalue, h.files, hsupply, h.handovers⟩

/-- Both hand the diagram over; what the real run does besides is to write output. -/
theorem render (engine diagram : String) {output : String} (houtput : IsOutput output.toList) :
    Coupled (Alike before before') (Rendering.render true engine diagram output)
      (Rendering.render false engine diagram output) fun _ _ => Alike before before' := by
  intro w w' h
  have hreal := OutputOnly.render engine diagram houtput w' ⟨h.files, h.supply⟩
  obtain ⟨hs, hw, hw'⟩ := h.handovers
  have hhandover : ∀ simulate (w : Workspace),
      ((Rendering.render simulate engine diagram output).run w).2.handovers =
        w.handovers ++ [⟨diagram, output⟩] := fun simulate w =>
    congrArg Prod.snd (Rendering.records_render simulate engine diagram output w)
  refine ⟨hreal.files, hreal.supply, hs ++ [⟨diagram, output⟩], ?_, ?_⟩
  · rw [hhandover, hw, List.append_assoc]
  · rw [hhandover, hw', List.append_assoc]

theorem generate {o o' : Diagram.Options} (ho : o.simulate = true)
    (ho' : o' = { o with simulate := false }) (input : Value) {output : String}
    (houtput : IsOutput output.toList) :
    Coupled (Alike before before') (Diagram.generate o input output) (Diagram.generate o' input output)
      fun _ _ => Alike before before' := by
  subst ho'
  unfold Diagram.generate
  simp only
  split_ifs
  · split
    · exact Coupled.pure fun _ _ h => h
    · refine Coupled.bind (Q := fun _ _ => Alike before before') ?_ fun _ _ => Coupled.pure fun _ _ h => h
      refine (charting _).bind_eq fun chart => ?_
      cases chart with
      | none => exact Coupled.pure fun _ _ h => h
      | some text => exact ho ▸ render o.engine text houtput
  · refine Coupled.bind (Q := fun _ _ => Alike before before') ?_ fun _ _ => Coupled.pure fun _ _ h => h
    refine (charting _).bind_eq fun document => ?_
    cases document with
    | error e => exact (print _ _).bind fun _ _ => Coupled.pure fun _ _ h => h
    | ok d => exact ho ▸ render o.engine d.render houtput

end Alike

namespace Job

/-- Diagrams are output. -/
theorem isOutput_outputPath (folder output seed : String) :
    IsOutput (join folder (outputName output seed)).toList :=
  .inl (pdf_suffix_join folder output seed)

section
variable {before before' : List Handover} {s s' : Settings} (hs : s.simulate = true)
  (hs' : s' = { s with simulate := false })

include hs hs'

theorem alike_makeDiagram (parts : List (String × String)) (folder seed : String) :
    Coupled (Alike before before') (makeDiagram s parts folder (outputName s.output seed))
      (makeDiagram s' parts folder (outputName s'.output seed)) fun _ _ => Alike before before' := by
  subst hs'
  refine (Alike.generate hs rfl (payloadValue parts) (isOutput_outputPath folder s.output seed)).bind ?_
  intro result result'
  -- they may differ in what they report
  rcases result with e | _ | _ <;> rcases result' with e' | _ | _ <;>
    exact fun _ _ h => ⟨h.files, h.supply, h.handovers⟩

variable (hexts : Sources s.exts)

include hexts

theorem alike_performSeed (folder : String) (met : List String) {seed : String}
    (hseed : ¬IsOutput seed.toList) :
    Coupled (Alike before before') (performSeed s folder met seed) (performSeed s' folder met seed)
      fun r r' w w' => r = r' ∧ Alike before before' w w' := by
  unfold performSeed
  split_ifs with hmet
  · exact Coupled.pure fun _ _ h => ⟨rfl, h⟩
  · refine Coupled.get_bind fun x y h => ?_
    have hpaths : bundle y.files s'.exts seed = bundle x.files s.exts seed := by
      rw [hs']
      exact bundle_eq h.files hexts seed
    have hparts : payload y.files (bundle x.files s.exts seed) =
        payload x.files (bundle x.files s.exts seed) := by
      refine payload_eq h.files fun p hp => ?_
      rcases eq_or_of_mem_bundle hp with rfl | ⟨d, n, rfl, hext⟩
      · exact hseed
      · exact hexts.not_isOutput hext (suffix_join d n)
    have houtput : s'.output = s.output := by rw [hs']
    simp only [hpaths, hparts]
    split_ifs
    · exact Coupled.pure fun _ _ h => ⟨rfl, h⟩
    · refine (alike_makeDiagram hs hs' _ folder seed).bind fun _ _ => ?_
      rw [houtput]
      exact Coupled.pure fun _ _ h => ⟨rfl, h⟩

theorem alike_performSeeds (folder : String) (met : List String) {seeds : List String}
    (hseeds : ∀ seed ∈ seeds, ¬IsOutput seed.toList) :
    Coupled (Alike before before') (performSeeds s folder met seeds) (performSeeds s' folder met seeds)
      fun _ _ => Alike before before' := by
  induction seeds generalizing met with
  | nil => exact Coupled.pure fun _ _ h => h
  | cons seed rest ih =>
      refine (alike_performSeed hs hs' hexts folder met (hseeds seed List.mem_cons_self)).bind_eq fun r => ?_
      refine (ih r.1 fun x hx => hseeds x (List.mem_cons_of_mem _ hx)).bind fun _ _ => ?_
      exact Coupled.pure fun _ _ h => h

/-- **A simulated and a real run of groups hand over the same diagrams**, whatever the service replies and
whatever of it can be written. -/
theorem alike_performGroups {gs : List Selection.Group}
    (hgs : ∀ g ∈ gs, ∀ seed ∈ g.files, ¬IsOutput seed.toList) :
    Coupled (Alike before before') (performGroups s gs) (performGroups s' gs)
      fun _ _ => Alike before before' := by
  induction gs with
  | nil => exact Coupled.pure fun _ _ h => h
  | cons g rest ih =>
      refine (alike_performSeeds hs hs' hexts g.folder [] (hgs g List.mem_cons_self)).bind fun _ _ => ?_
      refine (ih fun g' hg' => hgs g' (List.mem_cons_of_mem _ hg')).bind fun _ _ => ?_
      exact Coupled.pure fun _ _ h => h

end

end Job

end CodeFlow
