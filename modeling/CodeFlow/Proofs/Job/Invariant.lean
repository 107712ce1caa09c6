import Mathlib
import CodeFlow.Proofs.Job.Sources
import CodeFlow.Proofs.Work

/-!
# `CodeFlow.Proofs.Job.Invariant` — what a job can do

To make diagrams, a job prints, takes numbers, hands diagrams over and, unless it is simulated, posts them and
writes at paths of two endings. A property of the workspace that none of these breaks holds at the end of a job
if it holds at its start, whatever files there are and whatever the service replies.

## Contents
- `pdf_suffix_join`, `isRendered_debugPath`: the paths that are written at.
- `Steady`: properties that no step breaks; `Steady.of_files`, `Steady.performGroups`.
-/

namespace CodeFlow.Job

open Files Selection Work

/-! ## Paths -/

/-- The name of a diagram ends in the extension of diagrams, and so does its path. -/
theorem pdf_suffix_join (folder output seed : String) :
    ['.', 'p', 'd', 'f'] <:+ (join folder (outputName output seed)).toList := by
  have hname : ['.', 'p', 'd', 'f'] <:+ (outputName output seed).toList := by
    rw [toList_outputName]
    cases key seed with
    | number n => exact ⟨output.toList ++ ' ' :: (toString n).toList, by simp [Key.suffix]⟩
    | stem t => exact ⟨output.toList ++ '_' :: t, by simp [Key.suffix]⟩
  exact hname.trans (suffix_join folder _)

theorem isRendered_debugPath {output : String} (h : ['.', 'p', 'd', 'f'] <:+ output.toList) :
    IsRendered (Rendering.debugPath output).toList := by
  obtain ⟨front, hfront⟩ := h
  refine .inr ⟨front, ?_⟩
  rw [Rendering.debugPath, String.toList_append, ← hfront, List.append_assoc]
  rfl

/-! ## Steps -/

/-- A property of the workspace that no step of a job breaks. -/
structure Steady (s : Settings) (I : Workspace → Prop) : Prop where
  /-- Text is printed. -/
  print : ∀ text, Preserves I (print text)
  /-- Numbers are taken. -/
  charting : ∀ {α : Type} (a : StateM Supply α), Preserves I (charting a)
  /-- Diagrams are handed over. -/
  handOver : ∀ h, Preserves I (handOver h)
  /-- Unless it is a simulation, requests are posted. -/
  post : s.simulate = false → ∀ r, Preserves I (post r)
  /-- Unless it is a simulation, files are written at paths of two endings. -/
  write : s.simulate = false → ∀ path, IsRendered path.toList → ∀ content, Preserves I (write path content)

/-- What is said of the files alone, and stays when files are written at such paths. -/
theorem Steady.of_files {s : Settings} {J : FileTree → Prop}
    (h : ∀ {t : FileTree} {path : String} (content : Content) (mishap : Option Mishap), J t →
      IsRendered path.toList → J (t.write path content mishap).2) : Steady s fun w => J w.files where
  print _ := fun _ hw => hw
  charting _ := fun _ hw => hw
  handOver _ := fun _ hw => hw
  post _ _ := fun _ hw => hw
  write _ _ hpath content := preserves_write fun _ mishap _ hw => h content mishap hw hpath

namespace Steady
variable {s : Settings} {I : Workspace → Prop} (h : Steady s I)

include h

theorem render (engine diagram : String) {output : String} (hpdf : ['.', 'p', 'd', 'f'] <:+ output.toList) :
    Preserves I (Rendering.render s.simulate engine diagram output) := by
  refine (h.handOver _).bind fun _ => ?_
  cases hsim : s.simulate with
  | true => exact (h.print _).bind fun _ => preserves_pure true
  | false =>
      have hsave := h.write hsim output (.inl hpdf)
      have hkeep := h.write hsim _ (isRendered_debugPath hpdf)
      refine (h.print _).bind fun _ => (h.post hsim _).bind fun reply => ?_
      exact Rendering.preserves_receive h.print hsave hkeep diagram reply

theorem generate (input : Value) {output : String} (hpdf : ['.', 'p', 'd', 'f'] <:+ output.toList) :
    Preserves I (Diagram.generate s.options input output) := by
  unfold Diagram.generate
  split_ifs
  · -- one chart of all code together
    split
    · exact preserves_pure _
    · refine Preserves.bind ?_ fun _ => preserves_pure _
      refine (h.charting _).bind fun chart => ?_
      cases chart with
      | none => exact preserves_pure false
      | some text => exact h.render _ text hpdf
  · -- a document with a block for each file
    refine Preserves.bind ?_ fun _ => preserves_pure _
    refine (h.charting _).bind fun document => ?_
    cases document with
    | error e => exact (h.print _).bind fun _ => preserves_pure false
    | ok d => exact h.render _ d.render hpdf

theorem makeDiagram (parts : List (String × String)) (folder seed : String) :
    Preserves I (makeDiagram s parts folder (outputName s.output seed)) := by
  refine (h.generate _ (pdf_suffix_join folder s.output seed)).bind fun result => ?_
  rcases result with e | b
  · exact preserves_pure ()
  · cases b <;> exact h.print _

theorem performSeed (folder : String) (met : List String) (seed : String) :
    Preserves I (performSeed s folder met seed) := by
  unfold Job.performSeed
  split_ifs
  · exact preserves_pure _
  · refine Preserves.bind (fun _ hw => hw) fun w => ?_
    simp only
    split_ifs
    · exact preserves_pure _
    · exact (h.makeDiagram _ folder seed).bind fun _ => preserves_pure _

theorem performSeeds (folder : String) (met seeds : List String) :
    Preserves I (performSeeds s folder met seeds) := by
  induction seeds generalizing met with
  | nil => exact preserves_pure _
  | cons seed rest ih =>
      exact (h.performSeed folder met seed).bind fun r => (ih r.1).bind fun _ => preserves_pure _

/-- **What no step breaks, no job breaks.** -/
theorem performGroups (gs : List Group) : Preserves I (performGroups s gs) := by
  induction gs with
  | nil => exact preserves_pure _
  | cons g rest ih =>
      exact (h.performSeeds g.folder [] g.files).bind fun _ => ih.bind fun _ => preserves_pure _

end Steady

end CodeFlow.Job
