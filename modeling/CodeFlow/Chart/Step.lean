/-!
# `CodeFlow.Chart.Step` — charts of source code

A chart is a tree of numbered steps that follows the structure of the statements it shows.

## Contents
- `Kind`, `Step`: the boxes of a chart.
- `Flow`: how boxes hang together.
-/

namespace CodeFlow.Chart

/-- The kind of a step. -/
inductive Kind where
  | start
  | finish
  | operation
  | transfer
  | routine
  | condition
deriving Repr, DecidableEq

/-- The word for a kind in a flow text. -/
def Kind.word : Kind → String
  | .start => "start"
  | .finish => "end"
  | .operation => "operation"
  | .transfer => "inputoutput"
  | .routine => "subroutine"
  | .condition => "condition"

/-- The letters with which the names of steps of a kind begin. -/
def Kind.letters : Kind → String
  | .start => "st"
  | .finish => "e"
  | .operation => "op"
  | .transfer => "io"
  | .routine => "sub"
  | .condition => "cond"

/-- A box of a chart. -/
structure Step where
  /-- Its name, unlike that of any other step. -/
  name : String
  /-- Its kind. -/
  kind : Kind
  /-- What it says. -/
  text : String
deriving Repr, DecidableEq

/-- A part of a chart, entered at one step. -/
inductive Flow where
  /-- One step, after which the chart goes on. -/
  | step (s : Step)
  /-- One step in place of a condition or a loop, after which the chart goes on. -/
  | merged (s : Step)
  /-- One step, after which it does not go on. -/
  | jump (s : Step)
  /-- The end of a function, after what it returns. -/
  | ret (output : Option Step) (finish : Step)
  /-- A condition with two branches; the branch for no may be empty. `apart` if the chart keeps it apart
  from the condition after it, `right` if the branch for yes goes to the right. -/
  | branch (cond : Step) (apart right : Bool) (yes no : List Flow)
  /-- A condition with a body that leads back to it. -/
  | loop (cond : Step) (body : List Flow)
  /-- A function with its start, its input and its end. -/
  | function (start input : Step) (body : List Flow) (finish : Step)

namespace Flow

/-- The step at which a part is entered. -/
def entry : Flow → Step
  | .step s | .merged s | .jump s => s
  | .ret output finish => output.getD finish
  | .branch cond _ _ _ _ => cond
  | .loop cond _ => cond
  | .function start _ _ _ => start

end Flow

end CodeFlow.Chart
