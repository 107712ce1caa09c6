import CodeFlow.Chart.Step

/-!
# `CodeFlow.Chart.Walk` — charts as flow texts

A chart is written down in the order of a walk from its entry: after a condition comes all that its
branch for yes leads to, then what is left of its branch for no. Every step is defined once, when the
walk reaches it; steps that are never reached are left out.

## Contents
- `Stop`, `Arrow`, `Trace`: the steps that were reached and the links between them.
- `Next`: where a part goes on.
- `walk`, `trace`, `flowText`.
-/

namespace CodeFlow.Chart

/-- A step that a walk comes by. -/
structure Stop where
  /-- The step. -/
  step : Step
  /-- The step is kept apart from the one after it. -/
  apart : Bool
deriving Repr, DecidableEq

/-- The text that defines a step; one that is kept apart carries a mark. -/
def Stop.text (s : Stop) : String :=
  s.step.name ++ (if s.apart then "(align-next=no)" else "") ++ "=>" ++ s.step.kind.word ++ ": " ++
    s.step.text

/-- A link between two steps, by their names. -/
structure Arrow where
  /-- Where the link starts. -/
  source : String
  /-- What is said of the link. -/
  specification : String
  /-- Where the link ends. -/
  target : String
deriving Repr, DecidableEq

/-- The line of a link; the specification stands in parentheses. -/
def Arrow.text (a : Arrow) : String :=
  let spec := if a.specification = "" then "" else "(" ++ a.specification ++ ")"
  a.source ++ spec ++ "->" ++ a.target

/-- What a walk has come by so far. -/
structure Trace where
  /-- The steps that were reached, in order. -/
  stops : List Stop := []
  /-- The links between them, in order. -/
  arrows : List Arrow := []

namespace Trace

/-- The names of the steps that were reached. -/
def names (t : Trace) : List String := t.stops.map (·.step.name)

/-- Comes by a step. -/
def define (t : Trace) (s : Step) (apart : Bool) : Trace := { t with stops := t.stops ++ [⟨s, apart⟩] }

/-- Links a step to another. -/
def link (t : Trace) (source specification target : String) : Trace :=
  { t with arrows := t.arrows ++ [⟨source, specification, target⟩] }

/-- The flow text of what a walk came by: definitions, an empty line and links. -/
def text (t : Trace) : String :=
  String.join (t.stops.map (·.text ++ "\n")) ++ "\n" ++ String.join (t.arrows.map (·.text ++ "\n"))

end Trace

/-- Where a part goes on: the name of a step and the walk from there. -/
structure Next where
  /-- The name of the step. -/
  name : String
  /-- The walk from it. -/
  visit : Trace → Trace

/-- Links a step to where its part goes on, and walks there. -/
def goOn (source specification : String) (next : Option Next) (t : Trace) : Trace :=
  match next with
  | none => t
  | some n => n.visit (t.link source specification n.name)

/-- The name of the step at which some parts are entered. -/
def entryName (fs : List Flow) : String := ((fs.head?.map (·.entry.name))).getD ""

mutual

/-- Walks a part; `back` if it is the last one of the body of a loop, where a single step leads back to
the left. -/
def walk (next : Option Next) (back : Bool) : Flow → Trace → Trace
  | .step s, t => goOn s.name (if back then "left" else "") next (t.define s false)
  | .merged s, t => goOn s.name "" next (t.define s false)
  | .jump s, t => t.define s false
  | .ret none finish, t => t.define finish false
  | .ret (some output) finish, t =>
    ((t.define output false).link output.name "" finish.name).define finish false
  | .branch cond apart right yes no, t =>
    let t := t.define cond apart
    let t := t.link cond.name (if right then "yes, right" else "yes") (entryName yes)
    let t := walkList next false yes t
    match no with
    | [] => goOn cond.name "no" next t
    | _ => walkList next false no (t.link cond.name "no" (entryName no))
  | .loop cond body, t =>
    let t := (t.define cond false).link cond.name "yes" (entryName body)
    let t := walkList (some ⟨cond.name, id⟩) true body t
    goOn cond.name "no" next t
  | .function start input body finish, t =>
    let t := (t.define start false).link start.name "" input.name
    let t := (t.define input false).link input.name "" (entryName body)
    let leave (t : Trace) : Trace :=
      if t.names.contains finish.name then t
      else goOn finish.name "" next (t.define finish false)
    walkList (some ⟨finish.name, leave⟩) false body t

/-- Walks parts one after the other, unless the first one was reached before. -/
def walkList (next : Option Next) (back : Bool) : List Flow → Trace → Trace
  | [], t => t
  | f :: fs, t =>
    if t.names.contains f.entry.name then t
    else
      let after := if fs.isEmpty then next else some ⟨entryName fs, walkList next back fs⟩
      walk after (back && fs.isEmpty) f t

end

/-- What a walk through a chart comes by. -/
def trace (flow : List Flow) : Trace := walkList none false flow {}

/-- The flow text of a chart. -/
def flowText (flow : List Flow) : String := (trace flow).text

end CodeFlow.Chart
