import CodeFlow.Dot.Statement
import CodeFlow.Text.Search

/-!
# `CodeFlow.Dot.Document` — whole DOT documents

A document opens with fixed settings. It holds either the statements of one graph, or one block per file,
numbered by the place of the file.

## Contents
- `Cluster`, `Cluster.lines`.
- `Document`, `Document.lines`, `Document.render`.
-/

namespace CodeFlow.Dot

/-- The block of a file. -/
structure Cluster where
  /-- The place of the file among all files. -/
  index : Nat
  /-- The label, as it is written between the quotes. -/
  label : String
  /-- The statements. -/
  graph : Graph
deriving Repr, DecidableEq

/-- The lines of a graph: nodes, then links. -/
def Graph.lines (g : Graph) : List String := g.nodes.map Node.render ++ g.links.map Link.render

/-- The lines of a block. An empty line follows it. -/
def Cluster.lines (c : Cluster) : List String :=
  ["    subgraph cluster_" ++ toString c.index ++ " \x7b",
    "        label = \"" ++ c.label ++ "\";",
    "        style=filled;",
    "        color=\"#F5F5F5\";",
    "        fontsize=14;"] ++
    c.graph.lines.map ("    " ++ ·) ++ ["    \x7d", ""]

/-- A document. -/
inductive Document where
  /-- One graph. -/
  | single (graph : Graph)
  /-- A block for each file that has nodes. -/
  | clustered (clusters : List Cluster)
deriving Repr, DecidableEq

namespace Document

/-- The lines that open a document. -/
def opening : List String :=
  ["digraph G \x7b",
    "    rankdir=TB;",
    "    compound=true;",
    "    nodesep=0.5;",
    "    ranksep=0.7;",
    "    node [fontname=\"Arial\", fontsize=11, style=filled, fillcolor=white];",
    "    edge [fontname=\"Arial\", fontsize=10];",
    ""]

/-- The lines between the opening and the closing brace. -/
def body : Document → List String
  | .single graph => graph.lines
  | .clustered clusters => clusters.flatMap Cluster.lines

/-- The lines of a document. -/
def lines (d : Document) : List String := opening ++ d.body ++ ["\x7d"]

/-- The text of a document. -/
def render (d : Document) : String := Text.joinStrings "\n" d.lines

end Document

end CodeFlow.Dot
