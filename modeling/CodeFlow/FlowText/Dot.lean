import CodeFlow.Dot.Statement
import CodeFlow.FlowText.Line
import CodeFlow.Ident
import CodeFlow.Label
import CodeFlow.Text.Lower

/-!
# `CodeFlow.FlowText.Dot` — a flow text as DOT statements

Definitions may go on over several lines: a line that neither links nor defines is part of the text of
the definition before it. If an identifier is defined again, it keeps its place among the nodes and
takes its kind and text from the last definition.

## Contents
- `Line`, `Line.ofChars`: what a line is to this reader.
- `Table`: the definitions in order of their first occurrence.
- `node`, `link`, `graph`.
-/

namespace CodeFlow.FlowText

open Text Dot

/-! ## Lines -/

/-- What a line of a flow text is. -/
inductive Line where
  /-- It draws links. -/
  | link
  /-- It defines a step. -/
  | definition (d : Definition)
  /-- It is text. -/
  | text (t : List Char)

/-- Reads a line. Any line with an arrow links; a comment, or a line with blanks in front, defines
nothing. -/
def Line.ofChars (line : List Char) : Line :=
  if isLink line then .link
  else
    let defines := occurs definitionArrow line && !(['/', '/'].isPrefixOf (strip line))
    match if defines then readDefinition? line else none with
    | some d => .definition d
    | none => .text (strip line)

/-! ## Definitions -/

/-- Definitions by identifier, in order of their first occurrence. -/
abbrev Table := List Definition

/-- Enters a definition; one with the same identifier is replaced in its place. -/
def Table.put (d : Definition) : Table → Table
  | [] => [d]
  | e :: rest => if e.id = d.id then d :: rest else e :: Table.put d rest

/-- Adds a line to the text of a definition. -/
def Table.extend (id : String) (t : List Char) (table : Table) : Table :=
  table.map fun d => if d.id = id then { d with text := d.text ++ '\n' :: t } else d

/-- `collect current table ls` reads the lines `ls`, where text belongs to the definition of
`current`. -/
def collect (current : Option String) (table : Table) : List Line → Table
  | [] => table
  | .link :: rest => collect current table rest
  | .definition d :: rest => collect (some d.id) (table.put d) rest
  | .text t :: rest =>
    match current with
    | none => collect none table rest
    | some id => collect (some id) (table.extend id t) rest

/-- The definitions of a flow text. -/
def definitions (flow : List Char) : Table := collect none [] ((lines flow).map Line.ofChars)

/-! ## Statements -/

/-- The outline of a kind of step. -/
def shapeOf (kind : String) : Shape :=
  if kind = "start" then .oval
  else if kind = "end" then .oval
  else if kind = "inputoutput" then .parallelogram
  else if kind = "condition" then .diamond
  else if kind = "subroutine" then .component
  else .rectangle

/-- The colour of a kind of step. -/
def fillOf (kind : String) : Fill :=
  if kind = "start" then .start
  else if kind = "end" then .finish
  else if kind = "inputoutput" then .transfer
  else if kind = "condition" then .condition
  else if kind = "subroutine" then .routine
  else .operation

/-- The node statement of a definition. -/
def node (pre : String) (d : Definition) : Node where
  id := Ident.qualify pre d.id
  label := Label.escape (String.ofList d.text) Label.defaultLimit
  shape := shapeOf d.kind
  fill := some (fillOf d.kind)

/-- What stands in front of the first opening parenthesis. -/
def beforeParen (source : List Char) : List Char := source.takeWhile (· != '(')

/-- What stands between the first opening and the last closing parenthesis. -/
def insideParens (source : List Char) : List Char :=
  let after := (source.dropWhile (· != '(')).drop 1
  (dropEndWhile (· != ')') after).dropLast

/-- The style of a link, by the specification of its source. -/
def styleOf (specification : List Char) : LinkStyle :=
  let spec := lower specification
  if occurs ['y', 'e', 's'] spec then .yes
  else if occurs ['n', 'o'] spec then .no
  else .plain

/-- The link statement between two ends. -/
def link (pre : String) (ends : List Char × List Char) : Link :=
  let (source, target) := ends
  let (name, style) :=
    if isSpecified source then (strip (beforeParen source), styleOf (insideParens source))
    else (source, .plain)
  ⟨Ident.qualify pre (String.ofList name), Ident.qualify pre (String.ofList target), style⟩

/-- The link statements of a line. -/
def lineLinks (pre : String) (line : List Char) : List Link :=
  if isLink line then (linkParts line).map (link pre) else []

/-- The statements of a flow text, with identifiers under a prefix. -/
def graph (flow pre : String) : Graph where
  nodes := (definitions flow.toList).map (node pre)
  links := (lines flow.toList).flatMap (lineLinks pre)

end CodeFlow.FlowText
