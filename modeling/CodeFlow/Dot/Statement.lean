/-!
# `CodeFlow.Dot.Statement` — node and link statements of a DOT document

Statements are data; `render` writes them. Labels are stored as they are written between the quotes.

## Contents
- `Shape`, `Fill`, `Node`, `Node.render`.
- `LinkStyle`, `Link`, `Link.render`.
- `Graph`: the statements of one chart, in order.
-/

namespace CodeFlow.Dot

/-! ## Nodes -/

/-- The outline of a node. -/
inductive Shape where
  | oval
  | rectangle
  | parallelogram
  | diamond
  | component
  | point
deriving Repr, DecidableEq

/-- The word for an outline. -/
def Shape.word : Shape → String
  | .oval => "oval"
  | .rectangle => "rectangle"
  | .parallelogram => "parallelogram"
  | .diamond => "diamond"
  | .component => "component"
  | .point => "point"

/-- What the colour of a node tells. -/
inductive Fill where
  | start
  | finish
  | transfer
  | condition
  | routine
  | operation
  | header
  | otherwise
deriving Repr, DecidableEq

/-- The colour code. -/
def Fill.code : Fill → String
  | .start => "#E3F2FD"
  | .finish => "#FFEBEE"
  | .transfer => "#E8F5E9"
  | .condition => "#FFF3E0"
  | .routine => "#F3E5F5"
  | .operation => "#FFF9C4"
  | .header => "#B2EBF2"
  | .otherwise => "#F5F5F5"

/-- A node statement. -/
structure Node where
  /-- The identifier declared. -/
  id : String
  /-- The label, as it is written between the quotes. -/
  label : String
  /-- The outline. -/
  shape : Shape
  /-- The colour; none for a node that is only outlined. -/
  fill : Option Fill
deriving Repr, DecidableEq

/-- The attributes that fill a node. -/
def fillAttributes : Option Fill → String
  | none => ""
  | some fill => ", style=filled, fillcolor=\"" ++ fill.code ++ "\""

/-- The line of a node statement. -/
def Node.render (n : Node) : String :=
  "    " ++ n.id ++ " [label=\"" ++ n.label ++ "\", shape=" ++ n.shape.word ++
    fillAttributes n.fill ++ "];"

/-! ## Links -/

/-- How a link is drawn. -/
inductive LinkStyle where
  /-- From a step to the next. -/
  | plain
  /-- Taken when a condition holds. -/
  | yes
  /-- Taken when a condition fails. -/
  | no
  /-- Taken when a condition fails, in the colour of other links. -/
  | otherwise
  /-- From a header to the chart under it. -/
  | dotted
deriving Repr, DecidableEq

/-- The attributes of a link. -/
def LinkStyle.attributes : LinkStyle → String
  | .plain => ""
  | .yes => " [label=\"yes\", color=\"#4CAF50\", fontcolor=\"#4CAF50\"]"
  | .no => " [label=\"no\", color=\"#F44336\", fontcolor=\"#F44336\"]"
  | .otherwise => " [label=\"no\"]"
  | .dotted => " [style=dotted]"

/-- A link statement. -/
structure Link where
  /-- Where the link starts. -/
  source : String
  /-- Where the link ends. -/
  target : String
  /-- How it is drawn. -/
  style : LinkStyle
deriving Repr, DecidableEq

/-- The line of a link statement. -/
def Link.render (l : Link) : String :=
  "    " ++ l.source ++ " -> " ++ l.target ++ l.style.attributes ++ ";"

/-! ## Graphs -/

/-- The statements of a chart. -/
structure Graph where
  /-- The node statements, in order. -/
  nodes : List Node := []
  /-- The link statements, in order. -/
  links : List Link := []
deriving Repr, DecidableEq

namespace Graph

/-- The statements of one graph and then those of another. -/
def append (g h : Graph) : Graph := ⟨g.nodes ++ h.nodes, g.links ++ h.links⟩

instance : Append Graph := ⟨append⟩

/-- The identifiers declared, in order. -/
def ids (g : Graph) : List String := g.nodes.map (·.id)

end Graph

end CodeFlow.Dot
