import CodeFlow.Source.Parser.Stmt

/-!
# `CodeFlow.Source.Parser` — source text as statements

The rules of the grammar are tied together under a bound on nesting. Every level of nesting takes at
least one character, so the length of the text is a bound that is never reached.

## Contents
- `Grammar.upTo`: the grammar with a bound on nesting.
- `parse?`: the statements of a source text; none if it is not in the language.
-/

namespace CodeFlow.Source

/-- The grammar in which nothing can be parsed. -/
def Grammar.nothing : Grammar where
  expression := failure
  disjunction := failure
  inversion := failure
  operand := failure
  factor := failure
  fieldValue := fun _ => none
  pattern := failure
  block := failure

/-- The grammar with at most `n` levels of nesting. -/
def Grammar.upTo : Nat → Grammar
  | 0 => .nothing
  | n + 1 =>
    let g := Grammar.upTo n
    { expression := Parser.expression g
      disjunction := Parser.disjunction g
      inversion := Parser.inversion g
      operand := Parser.operand g
      factor := Parser.factor g
      fieldValue := Parser.fieldValue g
      pattern := Parser.pattern g
      block := Parser.block g }

/-- All statements of a text. -/
def Parser.program (g : Grammar) : Parser (List Stmt) := do
  let body ← statements g
  mark .textEnd
  return body

/-- The statements of a source text; none if it is not in the language. -/
def parse? (text : List Char) : Option (List Stmt) := do
  let ts ← Lexer.tokens? text
  let (body, _) ← Parser.program (Grammar.upTo (text.length + 8)) ts
  return body

end CodeFlow.Source
