import Mathlib
import CodeFlow.Proofs.Coupling
import CodeFlow.Rendering

/-!
# `CodeFlow.Proofs.Work` — what rendering does to the workspace

Rendering a diagram hands that diagram over once, and posts it once unless it is simulated. What it does
besides leaves both records alone.

## Contents
- `Work.run_write`, `Work.preserves_write`: what writing a file can do.
- `Rendering.preserves_receive`: what taking a reply can do.
- `Work.records`: what was posted and what was handed over; `Rendering.records_render`.
-/

namespace CodeFlow

namespace Work

/-- What was posted and what was handed over. -/
def records (w : Workspace) : List Request × List Handover := (w.requests, w.handovers)

/-- Writing a file changes the files and uses up what goes wrong with it. -/
theorem run_write (path : String) (content : Files.Content) (w : Workspace) :
    (write path content).run w = ((w.files.write path content w.storage.next.1).1,
      { w with files := (w.files.write path content w.storage.next.1).2, storage := w.storage.next.2 }) := rfl

theorem preserves_write {I : Workspace → Prop} {path : String} {content : Files.Content}
    (h : ∀ w mishap storage, I w →
      I { w with files := (w.files.write path content mishap).2, storage := storage }) :
    Preserves I (write path content) := by
  intro w hw
  rw [run_write]
  exact h w _ _ hw

theorem preserves_write_records {r : List Request × List Handover} (path : String)
    (content : Files.Content) : Preserves (records · = r) (write path content) :=
  preserves_write fun _ _ _ hw => hw

end Work

namespace Rendering

open Work

/-- Whatever the service replies, text is printed, and files are written at two paths at most. -/
theorem preserves_receive {I : Workspace → Prop} {output : String}
    (hprint : ∀ text, Preserves I (print text)) (hsave : ∀ content, Preserves I (write output content))
    (hkeep : ∀ content, Preserves I (write (debugPath output) content)) (diagram : String) (reply : Reply) :
    Preserves I (receive diagram output reply) := by
  unfold receive
  split
  · refine (hsave _).bind fun result => ?_
    cases result with
    | ok _ => exact preserves_pure true
    | error e => exact (hprint _).bind fun _ => preserves_pure false
  · refine (hprint _).bind fun _ => Preserves.bind ?_ fun _ => preserves_pure false
    refine (hkeep _).bind fun result => ?_
    cases result with
    | ok _ => exact hprint _
    | error _ => exact preserves_pure ()
  · exact (hprint _).bind fun _ => preserves_pure false

/-- Sending a diagram posts one request, whatever the service replies. -/
theorem records_send (engine diagram output : String) (w : Workspace) :
    records ((send engine diagram output).run w).2 =
      (w.requests ++ [request engine diagram], w.handovers) := by
  unfold send
  rw [StateT.run_bind]
  exact preserves_receive (fun _ _ h => h) (preserves_write_records output)
    (preserves_write_records (debugPath output)) diagram _ _ rfl

/-- **Rendering hands the diagram over once**, and posts it once or, in a simulation, not at all. -/
theorem records_render (simulate : Bool) (engine diagram output : String) (w : Workspace) :
    records ((render simulate engine diagram output).run w).2 =
      (w.requests ++ (if simulate then [] else [request engine diagram]),
        w.handovers ++ [⟨diagram, output⟩]) := by
  cases simulate with
  | true =>
      rw [if_pos rfl, List.append_nil]
      rfl
  | false => exact records_send engine diagram output _

end Rendering

end CodeFlow
