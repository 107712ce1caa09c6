import CodeFlow.Source.Piece
import CodeFlow.Source.Stmt

/-!
# `CodeFlow.Source.Printer` — source code printed from its abstract syntax

Every operation is put in parentheses, so that the text shows how it is grouped. Statements begin on a
new line with a margin of four blanks per block; a function or a class has an empty line in front.
`match` statements and handlers of exception groups have no text.

## Contents
- `Expr.pieces` and its companions.
- `Stmt.pieces`: a statement at a depth.
- `Stmt.source?`, `program?`: the text of a statement and of a program, without blanks at their ends.
-/

namespace CodeFlow.Source

open Piece (text)

/-! ## Operators -/

/-- The text of an operator. -/
def UnaryOp.symbol : UnaryOp → String
  | .invert => "~"
  | .not => "not"
  | .plus => "+"
  | .minus => "-"

/-- The text of an operator. -/
def BinaryOp.symbol : BinaryOp → String
  | .add => "+"
  | .sub => "-"
  | .mul => "*"
  | .matMul => "@"
  | .div => "/"
  | .mod => "%"
  | .shiftLeft => "<<"
  | .shiftRight => ">>"
  | .bitOr => "|"
  | .bitXor => "^"
  | .bitAnd => "&"
  | .floorDiv => "//"
  | .pow => "**"

/-- The text of an operator. -/
def BoolOp.symbol : BoolOp → String
  | .and => "and"
  | .or => "or"

/-- The text of a comparison. -/
def CompareOp.symbol : CompareOp → String
  | .eq => "=="
  | .ne => "!="
  | .lt => "<"
  | .le => "<="
  | .gt => ">"
  | .ge => ">="
  | .is => "is"
  | .isNot => "is not"
  | .isIn => "in"
  | .notIn => "not in"

/-! ## Expressions -/

/-- Puts pieces in front of others, with a separator unless the others are none. -/
def separated (sep : String) (first : List Piece) (more : List (List Piece)) : List Piece :=
  first ++ more.flatMap fun ps => text sep :: ps

/-- Pieces with a separator between them. -/
def interleave (sep : String) : List (List Piece) → List Piece
  | [] => []
  | first :: more => separated sep first more

/-- Whether an expression is a whole number. -/
def Expr.isWholeNumber : Expr → Bool
  | .constant c => c.isWhole
  | _ => false

mutual

/-- The pieces of an expression. -/
def Expr.pieces : Expr → List Piece
  | .name id => [text id]
  | .constant c => [.constant c]
  | .formatted parts => [.formatted (formatPieces parts)]
  | .unary op e => text "(" :: text op.symbol :: text " " :: e.pieces ++ [text ")"]
  | .binary op l r =>
    text "(" :: l.pieces ++ text (" " ++ op.symbol ++ " ") :: r.pieces ++ [text ")"]
  | .bool op es => text "(" :: interleave (" " ++ op.symbol ++ " ") (exprPieces es) ++ [text ")"]
  | .compare first rest => text "(" :: first.pieces ++ comparisonPieces rest ++ [text ")"]
  | .call f args keywords =>
    f.pieces ++ text "(" :: interleave ", " (exprPieces args ++ keywordPieces keywords) ++ [text ")"]
  | .member e id =>
    e.pieces ++ [text (if e.isWholeNumber then " ." else "."), text id]
  | .subscript e index => e.pieces ++ text "[" :: index.pieces ++ [text "]"]
  | .slice lower upper step =>
    optionPieces "" lower ++ text ":" :: optionPieces "" upper ++ optionPieces ":" step
  | .starred e => text "*" :: e.pieces
  | .list es => text "[" :: interleave ", " (exprPieces es) ++ [text "]"]
  | .tuple es =>
    match exprPieces es with
    | [one] => text "(" :: one ++ [text ",)"]
    | all => text "(" :: interleave ", " all ++ [text ")"]
  | .setOf es => text "\x7b" :: interleave ", " (exprPieces es) ++ [text "\x7d"]
  | .dict items => text "\x7b" :: interleave ", " (dictPieces items) ++ [text "\x7d"]
  | .listComp e clauses => text "[" :: e.pieces ++ clausePieces clauses ++ [text "]"]
  | .setComp e clauses => text "\x7b" :: e.pieces ++ clausePieces clauses ++ [text "\x7d"]
  | .generator e clauses => text "(" :: e.pieces ++ clausePieces clauses ++ [text ")"]
  | .dictComp k v clauses =>
    text "\x7b" :: k.pieces ++ text ": " :: v.pieces ++ clausePieces clauses ++ [text "\x7d"]
  | .conditional test yes no =>
    text "(" :: yes.pieces ++ text " if " :: test.pieces ++ text " else " :: no.pieces ++
      [text ")"]
  | .lambda ps body => text "(lambda " :: ps.pieces ++ text ": " :: body.pieces ++ [text ")"]
  | .named target value => text "(" :: target.pieces ++ text " := " :: value.pieces ++ [text ")"]
  | .await e => text "(await " :: e.pieces ++ [text ")"]
  | .yield e => text "(yield" :: optionPieces " " e ++ [text ")"]
  | .yieldFrom e => text "(yield from " :: e.pieces ++ [text ")"]

/-- The pieces of each of some expressions. -/
def exprPieces : List Expr → List (List Piece)
  | [] => []
  | e :: rest => e.pieces :: exprPieces rest

/-- The pieces of an expression that may be missing, after a text. -/
def optionPieces (before : String) : Option Expr → List Piece
  | none => []
  | some e => text before :: e.pieces

/-- The pieces of the parts of a formatted text. -/
def formatPieces : List FormatPart → List Piece
  | [] => []
  | .chars codes :: rest => .chars codes :: formatPieces rest
  | .field value conversion hasSpec spec :: rest =>
    .field value.pieces conversion hasSpec (formatPieces spec) :: formatPieces rest

/-- The pieces of a chain of comparisons after its first operand. -/
def comparisonPieces : List Comparison → List Piece
  | [] => []
  | .mk op e :: rest => text (" " ++ op.symbol ++ " ") :: e.pieces ++ comparisonPieces rest

/-- The pieces of each argument by name. -/
def keywordPieces : List KeywordArg → List (List Piece)
  | [] => []
  | .mk name e :: rest =>
    (text (match name with | some id => id ++ "=" | none => "**") :: e.pieces) ::
      keywordPieces rest

/-- The pieces of each entry of a dictionary. -/
def dictPieces : List DictItem → List (List Piece)
  | [] => []
  | .entry k v :: rest => (k.pieces ++ text ": " :: v.pieces) :: dictPieces rest
  | .spread v :: rest => (text "**" :: v.pieces) :: dictPieces rest

/-- The pieces of the clauses of a comprehension. -/
def clausePieces : List ForClause → List Piece
  | [] => []
  | .mk isAsync target iterable conditions :: rest =>
    text (if isAsync then " async for " else " for ") :: target.pieces ++ text " in " ::
      iterable.pieces ++ conditionPieces conditions ++ clausePieces rest

/-- The pieces of the conditions of a clause. -/
def conditionPieces : List Expr → List Piece
  | [] => []
  | e :: rest => text " if " :: e.pieces ++ conditionPieces rest

/-- The pieces of each of some parameters. -/
def paramPieces : List Param → List (List Piece)
  | [] => []
  | .mk name hint default :: rest =>
    (text name :: optionPieces ": " hint ++ optionPieces "=" default) :: paramPieces rest

/-- The pieces of a parameter that may be missing, after stars. -/
def restPieces (stars : String) : Option Param → List (List Piece)
  | none => []
  | some (.mk name hint _) => [text stars :: text name :: optionPieces ": " hint]

/-- The pieces of a parameter list. A bare star stands in front of parameters by name if no parameter
takes the rest by position. -/
def Params.pieces : Params → List Piece
  | .mk positional plain rest named namedRest =>
    let before := paramPieces positional
    let star :=
      match restPieces "*" rest, paramPieces named with
      | [], [] => []
      | [], _ => [[text "*"]]
      | ps, _ => ps
    let slash := if before.isEmpty then [] else [[text "/"]]
    interleave ", " (before ++ slash ++ paramPieces plain ++ star ++ paramPieces named ++
      restPieces "**" namedRest)

end

/-! ## Statements -/

/-- A new line with the margin of a depth, and a text. -/
def fill (depth : Nat) (s : String) : Piece :=
  text ("\n" ++ String.ofList (List.replicate (4 * depth) ' ') ++ s)

/-- Names with commas. -/
def commaNames (names : List String) : String := Text.joinStrings ", " names

/-- The text of an imported name. -/
def Alias.text (a : Alias) : String :=
  a.name ++ (a.asName.map (" as " ++ ·)).getD ""

/-- The pieces of a context of a `with` statement. -/
def WithItem.pieces (i : WithItem) : List Piece :=
  i.context.pieces ++ optionPieces " as " i.target

mutual

/-- The expressions of a pattern, as pieces. -/
def Pattern.pieces : Pattern → List Piece
  | .value e => e.pieces
  | .capture _ | .rest _ => []
  | .binding p _ => p.pieces
  | .sequence ps => patternPieces ps
  | .mapping keys ps _ => (exprPieces keys).flatten ++ patternPieces ps
  | .classOf type ps _ qs => type.pieces ++ patternPieces ps ++ patternPieces qs
  | .alternatives ps => patternPieces ps

/-- The expressions of patterns, as pieces. -/
def patternPieces : List Pattern → List Piece
  | [] => []
  | p :: rest => p.pieces ++ patternPieces rest

end

/-- The lines of decorators. -/
def decoratorPieces (depth : Nat) (decorators : List Expr) : List Piece :=
  decorators.flatMap fun e => fill depth "@" :: e.pieces

/-- The target of a declaration; a name that stood in parentheses keeps them. -/
def declaredPieces (target : Expr) (simple : Bool) : List Piece :=
  match target, simple with
  | .name id, false => [text ("(" ++ id ++ ")")]
  | _, _ => target.pieces

mutual

/-- The pieces of a statement at a depth. -/
def Stmt.pieces (depth : Nat) : Stmt → List Piece
  | .expr e => fill depth "" :: e.pieces
  | .assign targets value =>
    fill depth "" :: (exprPieces targets).flatMap (· ++ [text " = "]) ++ value.pieces
  | .augAssign target op value =>
    fill depth "" :: target.pieces ++ text (" " ++ op.symbol ++ "= ") :: value.pieces
  | .declare target hint value simple =>
    fill depth "" :: declaredPieces target simple ++ text ": " :: hint.pieces ++
      optionPieces " = " value
  | .ret value => fill depth "return" :: optionPieces " " value
  | .pass => [fill depth "pass"]
  | .breakLoop => [fill depth "break"]
  | .continueLoop => [fill depth "continue"]
  | .delete targets => fill depth "del " :: interleave ", " (exprPieces targets)
  | .check test message => fill depth "assert " :: test.pieces ++ optionPieces ", " message
  | .globals names => [fill depth ("global " ++ commaNames names)]
  | .nonlocals names => [fill depth ("nonlocal " ++ commaNames names)]
  | .raise exception cause =>
    fill depth "raise" :: optionPieces " " exception ++ optionPieces " from " cause
  | .importModules names => [fill depth ("import " ++ commaNames (names.map (·.text)))]
  | .importFrom level module names =>
    [fill depth ("from " ++ String.ofList (List.replicate level '.') ++ module.getD "" ++
      " import " ++ commaNames (names.map (·.text)))]
  | .cond test body orElse =>
    fill depth "if " :: test.pieces ++ text ":" :: blockPieces (depth + 1) body ++
      elifPieces depth orElse
  | .whileLoop test body orElse =>
    fill depth "while " :: test.pieces ++ text ":" :: blockPieces (depth + 1) body ++
      elsePieces depth "else:" orElse
  | .forLoop isAsync target iterable body orElse =>
    fill depth (if isAsync then "async for " else "for ") :: target.pieces ++ text " in " ::
      iterable.pieces ++ text ":" :: blockPieces (depth + 1) body ++
      elsePieces depth "else:" orElse
  | .withContexts isAsync items body =>
    fill depth (if isAsync then "async with " else "with ") ::
      interleave ", " (items.map (·.pieces)) ++ text ":" :: blockPieces (depth + 1) body
  | .tryBlock isGroup body handlers orElse atEnd =>
    (if isGroup then [.unprintable] else []) ++
      fill depth "try:" :: blockPieces (depth + 1) body ++ handlerPieces depth handlers ++
      elsePieces depth "else:" orElse ++ elsePieces depth "finally:" atEnd
  | .function isAsync name params returns decorators body =>
    text "\n" :: decoratorPieces depth decorators ++
      fill depth ((if isAsync then "async def " else "def ") ++ name ++ "(") :: params.pieces ++
      text ")" :: optionPieces " -> " returns ++ text ":" :: blockPieces (depth + 1) body
  | .classDef name bases keywords decorators body =>
    text "\n" :: decoratorPieces depth decorators ++
      fill depth ("class " ++ name ++ "(") ::
      interleave ", " (exprPieces bases ++ keywordPieces keywords) ++
      text "):" :: blockPieces (depth + 1) body
  | .matchCases subject cases => .unprintable :: subject.pieces ++ casePieces depth cases

/-- The pieces of statements at a depth. -/
def blockPieces (depth : Nat) : List Stmt → List Piece
  | [] => []
  | s :: rest => s.pieces depth ++ blockPieces depth rest

/-- What follows the body of a condition: more conditions, or an `else`. -/
def elifPieces (depth : Nat) : List Stmt → List Piece
  | [] => []
  | [.cond test body orElse] =>
    fill depth "elif " :: test.pieces ++ text ":" :: blockPieces (depth + 1) body ++
      elifPieces depth orElse
  | s :: rest => fill depth "else:" :: s.pieces (depth + 1) ++ blockPieces (depth + 1) rest

/-- A block under a line, left out if it is empty. -/
def elsePieces (depth : Nat) (line : String) : List Stmt → List Piece
  | [] => []
  | s :: rest => fill depth line :: s.pieces (depth + 1) ++ blockPieces (depth + 1) rest

/-- The pieces of handlers at a depth. -/
def handlerPieces (depth : Nat) : List Handler → List Piece
  | [] => []
  | .mk type name body :: rest =>
    fill depth "except" :: optionPieces " " type ++
      [text ((name.map (" as " ++ ·)).getD "" ++ ":")] ++
      blockPieces (depth + 1) body ++ handlerPieces depth rest

/-- The expressions of the cases of a `match` statement, as pieces. -/
def casePieces (depth : Nat) : List MatchCase → List Piece
  | [] => []
  | .mk p guard body :: rest =>
    p.pieces ++ optionPieces "" guard ++ blockPieces depth body ++ casePieces depth rest

end

/-! ## Texts -/

/-- The text of pieces without the blanks at its ends. -/
def strippedText? (ps : List Piece) : Option String :=
  (Piece.print? ps).map fun s => String.ofList (Text.strip s.toList)

/-- The text of a statement. -/
def Stmt.source? (s : Stmt) : Option String := strippedText? (s.pieces 0)

/-- The text of a program. -/
def program? (body : List Stmt) : Option String := strippedText? (blockPieces 0 body)

/-- Whether the fields of all formatted texts of a program can be written without a backslash. -/
def isPlainProgram (body : List Stmt) : Bool := Piece.arePlain (blockPieces 0 body)

end CodeFlow.Source
