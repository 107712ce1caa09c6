import CodeFlow.FlowText.Line

/-!
# `CodeFlow.FlowText.Mermaid` — a flow text as a Mermaid diagram

Every line stands by itself here: blanks at its ends do not count, a definition becomes a node in
brackets that show its kind, and a line of links becomes arrows. Other lines are left out.
-/

namespace CodeFlow.FlowText.Mermaid

open Text

/-- The brackets around the text of a kind of step. -/
def brackets (kind : String) : String × String :=
  if kind = "start" then ("([\"", "\"])")
  else if kind = "end" then ("([\"", "\"])")
  else if kind = "inputoutput" then ("[/\"", "\"/]")
  else if kind = "subroutine" then ("[[\"", "\"]]")
  else if kind = "condition" then ("\x7b\"", "\"\x7d")
  else ("[\"", "\"]")

/-- The line of a step. Double quotes in its text become single ones. -/
def node (d : Definition) : String :=
  let (opening, closing) := brackets d.kind
  let text := String.ofList (d.text.map fun c => if c = '"' then '\'' else c)
  "    " ++ d.id ++ opening ++ text ++ closing

/-- The word of a condition on a link, if its source carries one, and the source without it. -/
def condition (source : List Char) : Option String × List Char :=
  let yes := "(yes)".toList
  let no := "(no)".toList
  if isSpecified source then
    if occurs yes source then (some "yes", replace yes [] source)
    else if occurs no source then (some "no", replace no [] source)
    else (none, source)
  else (none, source)

/-- The line of a link between two ends. -/
def link (ends : List Char × List Char) : String :=
  let (word, source) := condition ends.1
  let arrow := match word with
    | some w => " -->|" ++ w ++ "| "
    | none => " --> "
  "    " ++ String.ofList source ++ arrow ++ String.ofList ends.2

/-- What is drawn for a line. -/
def drawLine (line : List Char) : List String :=
  let line := strip line
  match readDefinition? line with
  | some d => [node d]
  | none => if isLink line then (linkParts line).map link else []

/-- The first lines of a diagram: its theme, if one other than the default is named, and its
direction. -/
def heading (theme : Option String) : List String :=
  match theme with
  | none => ["graph TD"]
  | some name =>
    if name = "" ∨ name = "default" then ["graph TD"]
    else ["%%\x7binit: \x7b'theme': '" ++ name ++ "'\x7d \x7d%%", "graph TD"]

/-- The Mermaid diagram of a flow text. -/
def diagram (flow : String) (theme : Option String) : String :=
  joinStrings "\n" (heading theme ++ (lines flow.toList).flatMap drawLine)

end CodeFlow.FlowText.Mermaid
