import CodeFlow.Dot.Statement
import CodeFlow.Ident
import CodeFlow.Label

/-!
# `CodeFlow.BraceGraph` — the diagram of code with braces

Code in languages whose blocks stand in braces is drawn line by line: comments go, every line that is
left is one node, and conditions are closed by the braces that follow them.

## Contents
- `dropLineComments`, `dropBlockComments`.
- `LineClass`: what a line does.
- `State`, `advance`: the diagram so far, and what a line adds to it.
- `diagram`.
-/

namespace CodeFlow.BraceGraph

open Text Dot

/-! ## Comments -/

/-- Drops what follows two slashes on a line; `inside` such a comment. -/
def dropLineComments (inside : Bool) : List Char → List Char
  | [] => []
  | c :: rest =>
    if inside then
      if c = '\n' then c :: dropLineComments false rest else dropLineComments true rest
    else if c = '/' ∧ rest.head? = some '/' then dropLineComments true rest
    else c :: dropLineComments false rest

/-- Drops comments between slash-star and star-slash; `inside` such a comment. A comment that is not
closed stays. -/
def dropBlockComments : Bool → List Char → List Char
  | _, [] => []
  | false, '/' :: '*' :: rest =>
    if occurs ['*', '/'] rest then dropBlockComments true rest else '/' :: '*' :: rest
  | false, c :: rest => c :: dropBlockComments false rest
  | true, '*' :: '/' :: rest => dropBlockComments false rest
  | true, _ :: rest => dropBlockComments true rest

/-- The lines of code without comments and without blanks at their ends; blank lines are left out. -/
def codeLines (code : List Char) : List (List Char) :=
  ((lines (dropBlockComments false (dropLineComments false code))).map strip).filter
    (!·.isEmpty)

/-! ## Lines -/

/-- What a line does. -/
inductive LineClass where
  /-- It opens a condition. -/
  | opens
  /-- It begins the other branch of a condition. -/
  | other
  /-- It closes a block. -/
  | closes
  /-- It is a plain statement. -/
  | plain
deriving Repr, DecidableEq

/-- Whether a line begins with a word that opens a condition. -/
def beginsCondition (line : List Char) : Bool :=
  ['i', 'f'].isPrefixOf line || ['w', 'h', 'i', 'l', 'e'].isPrefixOf line ||
    ['f', 'o', 'r'].isPrefixOf line

/-- Reads what a line does. The words count wherever they stand in it, the first three at its begin. -/
def classify (line : List Char) : LineClass :=
  let hasElse := occurs ['e', 'l', 's', 'e'] line
  let hasIf := occurs ['i', 'f'] line
  if beginsCondition line || (hasElse && hasIf) then .opens
  else if hasElse then .other
  else if line.contains '\x7d' then .closes
  else .plain

/-! ## Drawing -/

/-- An open condition: its node and the node at which its branches meet. -/
structure Condition where
  /-- The node of the condition. -/
  node : String
  /-- The node at which its branches meet. -/
  meet : String
deriving Repr, DecidableEq

/-- The diagram so far. -/
structure State where
  /-- The statements. -/
  graph : Graph
  /-- The open conditions, innermost first. -/
  conditions : List Condition
  /-- The node from which the diagram goes on. -/
  last : String
  /-- The number of lines read. -/
  count : Nat

namespace State

/-- Adds a node with links to it, and goes on from it. -/
def add (s : State) (n : Node) (links : List Link) : State :=
  { s with graph := s.graph ++ ⟨[n], links⟩, last := n.id }

end State

/-- The label of a line. -/
def lineLabel (line : List Char) : String := Label.escape (String.ofList line) 50

/-- What a line adds to a diagram with identifiers under a prefix. -/
def advance (pre : String) (s : State) (line : List Char) : State :=
  let count := s.count + 1
  let id := pre ++ "_node_" ++ toString count
  let s := { s with count := count }
  match classify line with
  | .opens =>
    let s' := s.add ⟨id, lineLabel line, .diamond, some .condition⟩ [⟨s.last, id, .plain⟩]
    { s' with conditions := ⟨id, pre ++ "_out_" ++ toString count⟩ :: s.conditions }
  | .other =>
    match s.conditions with
    | [] => s
    | c :: _ => s.add ⟨id, "else", .rectangle, some .otherwise⟩ [⟨c.node, id, .otherwise⟩]
  | .closes =>
    match s.conditions with
    | [] => s
    | c :: rest =>
      let s' := s.add ⟨c.meet, "", .point, none⟩
        [⟨s.last, c.meet, .plain⟩, ⟨c.node, c.meet, .otherwise⟩]
      { s' with conditions := rest }
  | .plain => s.add ⟨id, lineLabel line, .rectangle, none⟩ [⟨s.last, id, .plain⟩]

/-- The diagram before the first line: its start, which names the file. -/
def start (pre file : String) : State where
  graph := ⟨[⟨pre ++ "_start", "INICIO: " ++ file, .oval, some .start⟩], []⟩
  conditions := []
  last := pre ++ "_start"
  count := 0

/-- The end of a diagram. -/
def finish (pre : String) (s : State) : Graph :=
  s.graph ++ ⟨[⟨pre ++ "_end", "FIN", .oval, some .finish⟩], [⟨s.last, pre ++ "_end", .plain⟩]⟩

/-- The diagram of code. The conditions that are open at the end stay open. -/
def diagram (code file : String) : Graph :=
  let pre := Ident.sanitize file
  finish pre ((codeLines code.toList).foldl (advance pre) (start pre file))

end CodeFlow.BraceGraph
