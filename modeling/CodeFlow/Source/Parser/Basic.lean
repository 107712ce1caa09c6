import CodeFlow.Source.Stmt
import CodeFlow.Source.Token

/-!
# `CodeFlow.Source.Parser.Basic` — parsers over tokens

A parser takes tokens from the front of a list and gives a result and the tokens that are left, or
fails. Alternatives are tried in order from the same tokens. The rules of the grammar that refer to
each other go through a record `Grammar`, whose members parse with a smaller bound on nesting.

## Contents
- `Parser`, single tokens, `opt`, `many`, `commaList`.
- `Grammar`.
-/

namespace CodeFlow.Source

/-- Parsers over lists of tokens. -/
abbrev Parser := StateT (List Token) Option

namespace Parser

/-- The next token, which stays. -/
def peek? : Parser (Option Token) := do return (← get).head?

/-- Takes an operator or a delimiter. -/
def symbol (text : String) : Parser Unit := fun ts =>
  match ts with
  | .symbol s :: rest => if s = text then some ((), rest) else none
  | _ => none

/-- Takes a keyword. -/
def keyword (word : String) : Parser Unit := fun ts =>
  match ts with
  | .keyword w :: rest => if w = word then some ((), rest) else none
  | _ => none

/-- Takes a name. -/
def name : Parser String := fun ts =>
  match ts with
  | .name id :: rest => some (id.text, rest)
  | _ => none

/-- Takes a given name, where it serves as a keyword. -/
def word (text : String) : Parser Unit := fun ts =>
  match ts with
  | .name id :: rest => if id.text = text then some ((), rest) else none
  | _ => none

/-- Takes a token of the line structure. -/
def mark (t : Token) : Parser Unit := fun ts =>
  match ts with
  | u :: rest => if u = t then some ((), rest) else none
  | [] => none

/-- Whether the next token is a given symbol. -/
def atSymbol (text : String) : Parser Bool := do return (← peek?) == some (.symbol text)

/-- Whether the next token is a given keyword. -/
def atKeyword (word : String) : Parser Bool := do return (← peek?) == some (.keyword word)

/-- Takes a symbol if it comes next. -/
def symbol? (text : String) : Parser Bool := do
  if ← atSymbol text then symbol text; return true
  else return false

/-- Takes a keyword if it comes next. -/
def keyword? (word : String) : Parser Bool := do
  if ← atKeyword word then keyword word; return true
  else return false

/-- Tries a parser. -/
def opt {α : Type} (p : Parser α) : Parser (Option α) := (some <$> p) <|> pure none

/-- At most `n` times the same parser, until it fails. -/
def manyUpTo {α : Type} (p : Parser α) : Nat → Parser (List α)
  | 0 => pure []
  | n + 1 => do
    match ← opt p with
    | some a => return a :: (← manyUpTo p n)
    | none => return []

/-- The same parser as often as it succeeds. -/
def many {α : Type} (p : Parser α) : Parser (List α) := do manyUpTo p (← get).length

/-- The same parser once or more. -/
def many1 {α : Type} (p : Parser α) : Parser (List α) := do return (← p) :: (← many p)

/-- What follows the first item of a list with commas: more items, and whether a comma ends it. -/
def commaRest {α : Type} (p : Parser α) : Nat → Parser (List α × Bool)
  | 0 => pure ([], false)
  | n + 1 => do
    if ← symbol? "," then
      match ← opt p with
      | some a => do
        let (rest, trailing) ← commaRest p n
        return (a :: rest, trailing)
      | none => return ([], true)
    else return ([], false)

/-- One or more items with commas between them, and whether a comma ends the list. -/
def commaList {α : Type} (p : Parser α) : Parser (List α × Bool) := do
  let first ← p
  let (rest, trailing) ← commaRest p (← get).length
  return (first :: rest, trailing)

/-- One or more items with commas between them, a comma not ending the list. -/
def commaList' {α : Type} (p : Parser α) : Parser (List α) := do
  let first ← p
  let rest ← many (do symbol ","; p)
  return first :: rest

/-- Fails unless a condition holds. -/
def require (b : Bool) : Parser Unit := if b then pure () else failure

end Parser

/-- The rules of the grammar that occur within themselves. -/
structure Grammar where
  /-- Any expression but a starred one, an assignment or a `yield`. -/
  expression : Parser Expr
  /-- An expression with no conditional and no `lambda` at its top. -/
  disjunction : Parser Expr
  /-- A negation or a comparison. -/
  inversion : Parser Expr
  /-- An operand of a comparison. -/
  operand : Parser Expr
  /-- A signed factor or a power. -/
  factor : Parser Expr
  /-- The expression in a field of a formatted text. -/
  fieldValue : List Char → Option Expr
  /-- A pattern. -/
  pattern : Parser Pattern
  /-- A block after a colon. -/
  block : Parser (List Stmt)

end CodeFlow.Source
