import CodeFlow.BraceGraph
import CodeFlow.Dot.Document
import CodeFlow.FlowText.Mermaid
import CodeFlow.Rendering
import CodeFlow.SourceGraph
import CodeFlow.Value

/-!
# `CodeFlow.Diagram` — diagrams of files

A text is drawn as one graph. Files are drawn as one block each, read by the language that the extension
of their name tells; a file without nodes has no block. One engine takes DOT documents; the other takes one
chart of all code together.

## Contents
- `Options`.
- `extension`, `filePrefix`, `fileGraph`, `cluster?`: one file.
- `document`, `chartText?`: what is to be rendered.
- `generate`.
-/

namespace CodeFlow.Diagram

open Text Dot Work

/-- How diagrams are made. -/
structure Options where
  /-- How source code is drawn. -/
  source : SourceGraph.Options := {}
  /-- The engine that renders. -/
  engine : String := "graphviz"
  /-- The theme of charts. -/
  theme : Option String := some "default"
  /-- Nothing is posted or written. -/
  simulate : Bool := false

/-! ## Files -/

/-- The extension of a file name, in lower case. Names without a point count as source code. -/
def extension (name : String) : String :=
  if name.toList.contains '.' then
    String.ofList (lower (name.toList.reverse.takeWhile (· != '.')).reverse)
  else "py"

/-- The prefix of the identifiers of a file. -/
def filePrefix (index : Nat) (name : String) : String :=
  "FILE_" ++ toString index ++ "_" ++ Ident.sanitize name

/-- The graph of a file. Code that is not a text has none. -/
def fileGraph (o : SourceGraph.Options) (index : Nat) (name : String) (code : Value) :
    StateM Supply Graph :=
  match code with
  | .text t =>
    if extension name = "py" then
      (fun d => d.graph) <$> SourceGraph.analyse o (filePrefix index name) t
    else return BraceGraph.diagram t (filePrefix index name)
  | _ => return {}

/-- The block of a file; none if it has no nodes. -/
def cluster? (index : Nat) (name : String) (g : Graph) : Option Cluster :=
  if g.nodes.isEmpty then none else some ⟨index, Label.escape name 60, g⟩

/-- The blocks of files from a place on. The first item that cannot be used ends it. -/
def clusters (o : SourceGraph.Options) :
    Nat → List Value → StateM Supply (Except Misfit (List Cluster))
  | _, [] => return .ok []
  | index, item :: rest => do
    match item.pair with
    | .error e => return .error e
    | .ok (name, code) =>
      match name.fileName with
      | .error e => return .error e
      | .ok name =>
        let g ← fileGraph o index name code
        match ← clusters o (index + 1) rest with
        | .error e => return .error e
        | .ok others => return .ok ((cluster? index name g).toList ++ others)

/-! ## Diagrams -/

/-- The document of a value. What is neither a text nor a list is drawn as nothing. -/
def document (o : SourceGraph.Options) (input : Value) : StateM Supply (Except Misfit Document) := do
  match input with
  | .text code => return .ok (.single (← SourceGraph.analyse o "main" code).graph)
  | .list items =>
    match ← clusters o 0 items with
    | .error e => return .error e
    | .ok cs => return .ok (.clustered cs)
  | _ => return .ok (.clustered [])

/-- All code of a value together. -/
def allCode (input : Value) : Except Misfit String :=
  match input with
  | .text code => .ok code
  | _ => do
    let pairs ← input.pairs
    let codes ← Value.texts (pairs.map (·.2))
    return joinStrings "\n" codes

/-- The chart of a text. None if it cannot be charted. -/
def chartText? (o : SourceGraph.Options) (theme : Option String) (code : String) :
    StateM Supply (Option String) := fun supply =>
  let (flow, number) := (o.charter o.toOptions o.inner (.ofText code)).run supply.number
  (flow.map (FlowText.Mermaid.diagram · theme), { supply with number := number })

/-- The engine that takes charts. -/
def chartEngine : String := "mermaid"

/-- Draws a chart of all code together and renders it. -/
def generateChart (o : Options) (code output : String) : Work Bool := do
  match ← charting (chartText? o.source o.theme code) with
  | none => return false
  | some text => Rendering.render o.simulate o.engine text output

/-- Draws a document and renders it. A value that cannot be used is reported. -/
def generateDocument (o : Options) (input : Value) (output : String) : Work Bool := do
  match ← charting (document o.source input) with
  | .error e =>
    print ("\n    Error procesando lógica del flowchart: " ++ e.message)
    return false
  | .ok d => Rendering.render o.simulate o.engine d.render output

/-- Makes the diagram of a value, and tells whether that succeeded. For charts, a value that cannot be used
is an error. -/
def generate (o : Options) (input : Value) (output : String) : Work (Except Misfit Bool) := do
  if o.engine = chartEngine then
    match allCode input with
    | .error e => return .error e
    | .ok code => return .ok (← generateChart o code output)
  else return .ok (← generateDocument o input output)

end CodeFlow.Diagram
