import CodeFlow.Text.Search
import CodeFlow.Text.Word

/-!
# `CodeFlow.FlowText.Line` — the lines of a flow text

A flow text describes a chart line by line: `id=>kind: text` defines a step, and `a->b` links steps,
also in chains and with a specification of the source in parentheses, as in `a(yes)->b`.

## Contents
- `Definition`, `readDefinition?`.
- `isLink`, `linkParts`: the ends of the links that a line draws.
-/

namespace CodeFlow.FlowText

open Text

/-- A step of a chart, as a line defines it. -/
structure Definition where
  /-- The identifier of the step. -/
  id : String
  /-- The word for the kind of step. -/
  kind : String
  /-- What the step says. -/
  text : List Char
deriving Repr, DecidableEq

/-- Reads `id=>kind: text` from the first character of a line on. Blanks before the text are left
out. -/
def readDefinition? (line : List Char) : Option Definition :=
  match line.takeWhile isWord, line.dropWhile isWord with
  | c :: id, '=' :: '>' :: rest =>
    match rest.takeWhile isWord, rest.dropWhile isWord with
    | k :: kind, ':' :: text =>
      some ⟨String.ofList (c :: id), String.ofList (k :: kind), stripStart text⟩
    | _, _ => none
  | _, _ => none

/-- The arrow of a link. -/
def arrow : List Char := ['-', '>']

/-- The arrow of a definition. -/
def definitionArrow : List Char := ['=', '>']

/-- Whether a line draws links. -/
def isLink (line : List Char) : Bool := occurs arrow line

/-- Each element with the one after it. -/
def neighbours {α : Type} : List α → List (α × α)
  | a :: b :: rest => (a, b) :: neighbours (b :: rest)
  | _ => []

/-- The two ends of every link of a line, blanks at their ends left out. -/
def linkParts (line : List Char) : List (List Char × List Char) :=
  neighbours ((splitOn arrow line).map strip)

/-- Whether the source of a link carries a specification in parentheses. -/
def isSpecified (source : List Char) : Bool :=
  source.contains '(' && source.getLast? == some ')'

end CodeFlow.FlowText
