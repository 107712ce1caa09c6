import CodeFlow.Chart.Build
import CodeFlow.Chart.Walk
import CodeFlow.Draws
import CodeFlow.FlowText.Dot
import CodeFlow.Source.Parser

/-!
# `CodeFlow.SourceGraph` — the diagram of a source text

A source text is drawn as the chart of its statements outside of functions and classes, followed by one
chart per function, top-level functions first and then methods. Each function has a header above its
chart. If the statements outside cannot be charted, the whole text is tried as one chart.

## Contents
- `FunctionPath`, `functionPaths`, `findBody?`: functions by name.
- `Charter`: what makes charts.
- `Sheet`, `sheets`: the charts of a source text.
- `Diagram`, `analyse`.
-/

namespace CodeFlow.SourceGraph

open Source

/-! ## Functions -/

/-- The name of a function, with the class it is a method of. -/
structure FunctionPath where
  /-- The class. -/
  className : Option String
  /-- The function. -/
  name : String
deriving Repr, DecidableEq

namespace FunctionPath

/-- The parts of a path. -/
def parts (p : FunctionPath) : List String := p.className.toList ++ [p.name]

/-- A path with a point. -/
def text (p : FunctionPath) : String := (p.className.map (· ++ ".")).getD "" ++ p.name

/-- The names under which a function is known: its own, and for a method its path. -/
def keys (p : FunctionPath) : List String := p.name :: (p.className.map fun _ => p.text).toList

end FunctionPath

/-- The functions of a class. -/
def methods (s : Stmt) : List FunctionPath :=
  match s.class? with
  | none => []
  | some (name, body) => (body.filterMap Stmt.functionName?).map fun f => ⟨some name, f⟩

/-- The functions that are drawn: those at the top, then those of classes. -/
def functionPaths (body : List Stmt) : List FunctionPath :=
  (body.filterMap Stmt.functionName?).map (⟨none, ·⟩) ++ body.flatMap methods

/-- A place in a program: the program itself, or a definition with its name. -/
structure Place where
  /-- The name of the definition. -/
  name : Option String
  /-- The statements there. -/
  body : List Stmt

/-- Goes to the last definition of a name; stays if there is none. -/
def Place.enter (p : Place) (part : String) : Place :=
  match (p.body.filterMap Stmt.definition?).reverse.find? (·.1 = part) with
  | some (name, body) => ⟨some name, body⟩
  | none => p

/-- The statements of the definition that a path leads to. It has to have the name at the end of the
path. -/
def findBody? (body : List Stmt) (p : FunctionPath) : Option (List Stmt) :=
  let place := p.parts.foldl Place.enter ⟨none, body⟩
  if place.name = some p.name then some place.body else none

/-! ## Charts -/

/-- What is charted. -/
inductive Subject where
  /-- Statements one after the other. -/
  | program (body : List Stmt)
  /-- A function of a program. -/
  | function (body : List Stmt) (path : FunctionPath)
  /-- A text that is not in the language. -/
  | unread (code : String)

/-- A whole text as what is charted. -/
def Subject.ofText (code : String) : Subject :=
  match parse? code.toList with
  | none => .unread code
  | some body => .program body

/-- What makes charts: step numbers are taken, and a chart may fail. -/
abbrev Charter (α : Type) := Chart.Options → Bool → Subject → StateM Nat (Option α)

/-- Charts as trees of steps. -/
def flows : Charter (List Chart.Flow) := fun o inner subject =>
  match subject with
  | .program body => (Chart.ofProgram o inner body).run
  | .function body path =>
    match findBody? body path with
    | none => return none
    | some inside => (Chart.ofProgram o inner inside).run
  | .unread _ => return none

/-- Charts as flow texts. -/
def flowTexts : Charter String := fun o inner subject => do
  return (← flows o inner subject).map Chart.flowText

/-- How source texts are drawn. -/
structure Options extends Chart.Options where
  /-- Statements outside of functions are drawn one by one. -/
  inner : Bool := true
  /-- What makes the charts. -/
  charter : Charter String := flowTexts

/-! ## Sheets -/

/-- A chart with the prefix of its identifiers. -/
structure Sheet (α : Type) where
  /-- The function that is charted; none for statements outside. -/
  path : Option FunctionPath
  /-- The prefix. -/
  pre : String
  /-- The chart. -/
  chart : α

section Sheets

variable {α : Type} (charter : Charter α)

/-- Charts a subject. None if it cannot be charted. -/
def sheet? (o : Chart.Options) (inner : Bool) (subject : Subject) (path : Option FunctionPath)
    (pre : String) : StateM Supply (Option (Sheet α)) := fun supply =>
  let (chart, number) := (charter o inner subject).run supply.number
  (chart.map (⟨path, pre, ·⟩), { supply with number := number })

/-- The prefix of the identifiers of a function. -/
def functionPrefix (file : String) (p : FunctionPath) (draw : Int) : String :=
  Ident.sanitize (file ++ "_FN_" ++ p.text ++ "_" ++ toString draw)

/-- Charts a function, under a number that is drawn for it. -/
def functionSheet? (o : Options) (file : String) (body : List Stmt) (p : FunctionPath) :
    StateM Supply (Option (Sheet α)) := do
  let draw ← Supply.draw
  sheet? charter { o.toOptions with simplify := false } true (.function body p) (some p)
    (functionPrefix file p draw)

/-- Charts functions one after the other. One that cannot be charted is left out. -/
def functionSheets (o : Options) (file : String) (body : List Stmt) :
    List FunctionPath → StateM Supply (List (Sheet α))
  | [] => return []
  | p :: rest => do
    let s ← functionSheet? charter o file body p
    let others ← functionSheets o file body rest
    return s.toList ++ others

/-- The statements outside of functions and classes. -/
def rootBody (body : List Stmt) : List Stmt := body.filter fun s => s.definition?.isNone

/-- Charts the statements outside, if there are any. None if they cannot be charted. -/
def rootSheets? (o : Options) (file : String) (body : List Stmt) :
    StateM Supply (Option (List (Sheet α))) :=
  let root := rootBody body
  if root.isEmpty then return some []
  else if !isPlainProgram root then return none
  else do
    let s ← sheet? charter o.toOptions o.inner (.program root) none (file ++ "_ROOT")
    return s.map ([·])

/-- Charts a text as a whole. -/
def wholeSheets (o : Options) (file : String) (subject : Subject) :
    StateM Supply (List (Sheet α)) := do
  let s ← sheet? charter o.toOptions o.inner subject none (file ++ "_FALLBACK")
  return s.toList

/-- The charts of a source text: of the statements outside and of every function. If there is none of
the statements outside, the text is charted as a whole. -/
def sheets (o : Options) (file code : String) : StateM Supply (List (Sheet α)) :=
  match parse? code.toList with
  | none => wholeSheets charter o file (.unread code)
  | some body => do
    match ← rootSheets? charter o file body with
    | some root => return root ++ (← functionSheets charter o file body (functionPaths body))
    | none => wholeSheets charter o file (.program body)

end Sheets

/-! ## Diagrams -/

/-- The diagram of a source text: its statements, and the headers of its functions by name. -/
structure Diagram where
  /-- The statements. -/
  graph : Dot.Graph := {}
  /-- The headers of functions, in order of their first entry. -/
  definitions : List (String × String) := []

/-- Enters a header; a name that is there keeps its place. -/
def putHeader (name header : String) : List (String × String) → List (String × String)
  | [] => [(name, header)]
  | (n, h) :: rest => if n = name then (n, header) :: rest else (n, h) :: putHeader name header rest

/-- The identifier of the header above the chart with a prefix. -/
def headerId (pre : String) : String := "HEAD_" ++ pre

/-- The header of a function. -/
def header (p : FunctionPath) (pre : String) : Dot.Node where
  id := headerId pre
  label := Label.escape ("FUNC: " ++ p.text) 60
  shape := .component
  fill := some .header

/-- Whether the statement of a node speaks of an oval. -/
def mentionsOval (n : Dot.Node) : Bool := Text.occurs "shape=oval".toList n.render.toList

/-- The node under the header: the first that speaks of an oval, or else the first one. -/
def anchor? (nodes : List Dot.Node) : Option Dot.Node :=
  match nodes.find? mentionsOval with
  | some n => some n
  | none => nodes.head?

/-- The statements drawn for a function: its header, its chart and the link between them. -/
def block (p : FunctionPath) (pre : String) (g : Dot.Graph) : Dot.Graph where
  nodes := header p pre :: g.nodes
  links := ((anchor? g.nodes).map fun n => ⟨headerId pre, n.id, .dotted⟩).toList ++ g.links

/-- The statements of a chart; a function has its header above. -/
def Sheet.graph (s : Sheet String) : Dot.Graph :=
  let g := FlowText.graph s.chart s.pre
  match s.path with
  | none => g
  | some p => block p s.pre g

/-- The header of a chart under the names of its function. -/
def Sheet.headers (s : Sheet String) : List (String × String) :=
  match s.path with
  | none => []
  | some p => p.keys.map fun key => (key, headerId s.pre)

/-- The diagram of charts. -/
def Diagram.ofSheets (sheets : List (Sheet String)) : Diagram where
  graph := ⟨sheets.flatMap (·.graph.nodes), sheets.flatMap (·.graph.links)⟩
  definitions :=
    (sheets.flatMap Sheet.headers).foldl (fun defs (name, id) => putHeader name id defs) []

/-- The diagram of a source text. -/
def analyse (o : Options) (file code : String) : StateM Supply Diagram := do
  return .ofSheets (← sheets o.charter o file code)

end CodeFlow.SourceGraph
