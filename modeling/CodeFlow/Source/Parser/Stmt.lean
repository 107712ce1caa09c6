import CodeFlow.Source.Parser.Pattern

/-!
# `CodeFlow.Source.Parser.Stmt` — the grammar of statements

One function per statement. What stands indented is parsed by `g.block`.

## Contents
- Simple statements and lines of them.
- Compound statements, `statement`, `block`.
-/

namespace CodeFlow.Source.Parser

variable (g : Grammar)

/-! ## Assignments -/

/-- The operators of assignments that compute. -/
def augmented : List (String × BinaryOp) :=
  [("+=", .add), ("-=", .sub), ("*=", .mul), ("@=", .matMul), ("/=", .div), ("%=", .mod),
    ("&=", .bitAnd), ("|=", .bitOr), ("^=", .bitXor), ("<<=", .shiftLeft), (">>=", .shiftRight),
    ("**=", .pow), ("//=", .floorDiv)]

/-- What may be assigned. -/
def assignedValue : Parser Expr := do
  if ← atKeyword "yield" then yieldExpr g else starExpressions g

/-- The type hint of a declaration and its value. -/
def declaration (target : Expr) (simple : Bool) : Parser Stmt := do
  let hint ← g.expression
  let value ← if ← symbol? "=" then some <$> assignedValue g else pure none
  return .declare target hint value simple

/-- Goes on with an assignment, where `targets` were read and their `=` taken. -/
def assignFrom : Nat → List Expr → Parser Stmt
  | 0, _ => failure
  | n + 1, targets => do
    let e ← assignedValue g
    if ← symbol? "=" then
      require e.isTarget
      assignFrom n (targets ++ [e])
    else return .assign targets e

/-- An assignment, a declaration or an expression. -/
def exprStmt : Parser Stmt := do
  match ← get with
  | .name id :: .symbol ":" :: rest => do
    set rest
    declaration g (.name id.text) true
  | .keyword "yield" :: _ => return .expr (← yieldExpr g)
  | _ => do
    let e ← starExpressions g
    if ← symbol? "=" then
      require e.isTarget
      assignFrom g (← get).length [e]
    else if ← symbol? ":" then
      require e.isPlace
      declaration g e false
    else
      match ← binaryOp? augmented with
      | some op => do
        require e.isPlace
        return .augAssign e op (← assignedValue g)
      | none => return .expr e

/-! ## Imports -/

/-- A name with points. -/
def dottedName : Parser String := do
  let first ← name
  let rest ← many (do symbol "."; name)
  return rest.foldl (fun s p => s ++ "." ++ p) first

/-- The name something is known by. -/
def asName : Parser (Option String) := do
  if ← keyword? "as" then return some (← name) else return none

/-- An imported module. -/
def moduleAlias : Parser Alias := do
  let id ← dottedName
  return ⟨id, ← asName⟩

/-- A name imported from a module. -/
def nameAlias : Parser Alias := do
  let id ← name
  return ⟨id, ← asName⟩

/-- The points in front of a module; three may be one symbol. -/
def points : Nat → Parser Nat
  | 0 => pure 0
  | n + 1 => do
    if ← symbol? "." then return (← points n) + 1
    else if ← symbol? "..." then return (← points n) + 3
    else return 0

/-- The names imported from a module. -/
def importedNames : Parser (List Alias) := do
  if ← symbol? "*" then return [⟨"*", none⟩]
  else if ← symbol? "(" then
    let (names, _) ← commaList nameAlias
    symbol ")"
    return names
  else commaList' nameAlias

/-- Names imported from a module, which may be given relative to the file. -/
def importFrom : Parser Stmt := do
  keyword "from"
  let level ← points (← get).length
  let module ← opt dottedName
  require (0 < level || module.isSome)
  keyword "import"
  return .importFrom level module (← importedNames)

/-! ## Simple statements -/

/-- A `raise` with its cause. -/
def raiseStmt : Parser Stmt := do
  keyword "raise"
  match ← opt g.expression with
  | none => return .raise none none
  | some e =>
    if ← keyword? "from" then return .raise (some e) (some (← g.expression))
    else return .raise (some e) none

/-- A `del`. -/
def deleteStmt : Parser Stmt := do
  keyword "del"
  let (targets, _) ← commaList g.operand
  require (Expr.areDeletable targets)
  return .delete targets

/-- An `assert` with its message. -/
def assertStmt : Parser Stmt := do
  keyword "assert"
  let test ← g.expression
  if ← symbol? "," then return .check test (some (← g.expression)) else return .check test none

/-- A statement that fits on a line. -/
def simpleStmt : Parser Stmt := do
  match ← peek? with
  | some (.keyword "pass") => do keyword "pass"; return .pass
  | some (.keyword "break") => do keyword "break"; return .breakLoop
  | some (.keyword "continue") => do keyword "continue"; return .continueLoop
  | some (.keyword "return") => do
    keyword "return"
    return .ret (← opt (starExpressions g))
  | some (.keyword "raise") => raiseStmt g
  | some (.keyword "del") => deleteStmt g
  | some (.keyword "assert") => assertStmt g
  | some (.keyword "global") => do keyword "global"; return .globals (← commaList' name)
  | some (.keyword "nonlocal") => do keyword "nonlocal"; return .nonlocals (← commaList' name)
  | some (.keyword "import") => do
    keyword "import"
    return .importModules (← commaList' moduleAlias)
  | some (.keyword "from") => importFrom
  | _ => exprStmt g

/-- Statements on one line, with semicolons. -/
def simpleStmts : Parser (List Stmt) := do
  let first ← simpleStmt g
  let rest ← many (do symbol ";"; simpleStmt g)
  let _ ← symbol? ";"
  mark .lineEnd
  return first :: rest

/-! ## Compound statements -/

/-- A block after its colon. -/
def colonBlock : Parser (List Stmt) := do
  symbol ":"
  g.block

/-- The block of an `else`, if there is one. -/
def elseBlock : Parser (List Stmt) := do
  if ← keyword? "else" then colonBlock g else return []

/-- The conditions after the first; each stands in the `else` of the one before. -/
def elifs : Nat → Parser (List Stmt)
  | 0 => failure
  | n + 1 => do
    if ← keyword? "elif" then
      let test ← namedExpression g
      let body ← colonBlock g
      return [.cond test body (← elifs n)]
    else elseBlock g

/-- A condition. -/
def ifStmt : Parser Stmt := do
  keyword "if"
  let test ← namedExpression g
  let body ← colonBlock g
  return .cond test body (← elifs g ((← get).length + 1))

/-- A `while` loop. -/
def whileStmt : Parser Stmt := do
  keyword "while"
  let test ← namedExpression g
  let body ← colonBlock g
  return .whileLoop test body (← elseBlock g)

/-- A `for` loop. -/
def forStmt (isAsync : Bool) : Parser Stmt := do
  keyword "for"
  let target ← starTargets g
  keyword "in"
  let iterable ← starExpressions g
  let body ← colonBlock g
  return .forLoop isAsync target iterable body (← elseBlock g)

/-- A context of a `with` statement. -/
def withItem : Parser WithItem := do
  let context ← g.expression
  if ← keyword? "as" then
    let target ← starTarget g
    require ((← atSymbol ",") || (← atSymbol ")") || (← atSymbol ":"))
    return ⟨context, some target⟩
  else return ⟨context, none⟩

/-- The contexts of a `with` statement, which may stand in parentheses together. -/
def withItems : Parser (List WithItem) :=
  (do
    symbol "("
    let (items, _) ← commaList (withItem g)
    symbol ")"
    symbol ":"
    return items)
  <|>
  (do
    let items ← commaList' (withItem g)
    symbol ":"
    return items)

/-- A `with` statement. -/
def withStmt (isAsync : Bool) : Parser Stmt := do
  keyword "with"
  let items ← withItems g
  return .withContexts isAsync items (← g.block)

/-- A handler of exceptions, or of groups of exceptions. -/
def handler (isGroup : Bool) : Parser Handler := do
  keyword "except"
  if isGroup then symbol "*"
  if !isGroup && (← atSymbol ":") then return .mk none none (← colonBlock g)
  else
    let type ← g.expression
    let id ← asName
    return .mk (some type) id (← colonBlock g)

/-- Whether the handlers of a `try` take groups of exceptions. -/
def atGroupHandler : Parser Bool := do
  match ← get with
  | .keyword "except" :: .symbol "*" :: _ => return true
  | _ => return false

/-- A `try` statement with handlers, a `finally`, or both. -/
def tryStmt : Parser Stmt := do
  keyword "try"
  let body ← colonBlock g
  let isGroup ← atGroupHandler
  let handlers ← many (handler g isGroup)
  let orElse ← if handlers.isEmpty then pure [] else elseBlock g
  let atEnd ← if ← keyword? "finally" then colonBlock g else pure []
  require (!handlers.isEmpty || !atEnd.isEmpty)
  return .tryBlock isGroup body handlers orElse atEnd

/-- A function. -/
def functionDef (isAsync : Bool) (decorators : List Expr) : Parser Stmt := do
  keyword "def"
  let id ← name
  symbol "("
  let ps ← params g true
  symbol ")"
  let returns ← if ← symbol? "->" then some <$> g.expression else pure none
  return .function isAsync id ps returns decorators (← colonBlock g)

/-- A class. -/
def classDef (decorators : List Expr) : Parser Stmt := do
  keyword "class"
  let id ← name
  let (bases, keywords) ← if ← symbol? "(" then classArguments g else pure ([], [])
  return .classDef id bases keywords decorators (← colonBlock g)

/-- A decorator on its line. -/
def decorator : Parser Expr := do
  symbol "@"
  let e ← namedExpression g
  mark .lineEnd
  return e

/-- A function or a class with its decorators. -/
def decorated : Parser Stmt := do
  let decorators ← many (decorator g)
  if ← keyword? "async" then functionDef g true decorators
  else if ← atKeyword "def" then functionDef g false decorators
  else classDef g decorators

/-- What follows `async`. -/
def asyncStmt : Parser Stmt := do
  keyword "async"
  if ← atKeyword "def" then functionDef g true []
  else if ← atKeyword "for" then forStmt g true
  else withStmt g true

/-- A case of a `match` statement. -/
def matchCase : Parser MatchCase := do
  word "case"
  let p ← casePattern g
  let guard ← if ← keyword? "if" then some <$> namedExpression g else pure none
  return .mk p guard (← colonBlock g)

/-- What is matched: an expression, or several with commas. -/
def matchSubject : Parser Expr := do
  match ← commaList (starNamedExpression g) with
  | ([e], false) => do
    require (!e.isStarred)
    return e
  | (es, _) => return .tuple es

/-- A `match` statement; its words are names elsewhere. -/
def matchStmt : Parser Stmt := do
  word "match"
  let subject ← matchSubject g
  symbol ":"
  mark .lineEnd
  mark .indent
  let cases ← many1 (matchCase g)
  mark .dedent
  return .matchCases subject cases

/-- One statement, or several on a line. -/
def statement : Parser (List Stmt) := do
  let one (p : Parser Stmt) : Parser (List Stmt) := do return [← p]
  match ← peek? with
  | some (.keyword "if") => one (ifStmt g)
  | some (.keyword "while") => one (whileStmt g)
  | some (.keyword "for") => one (forStmt g false)
  | some (.keyword "with") => one (withStmt g false)
  | some (.keyword "try") => one (tryStmt g)
  | some (.keyword "def") => one (functionDef g false [])
  | some (.keyword "class") => one (classDef g [])
  | some (.keyword "async") => one (asyncStmt g)
  | some (.symbol "@") => one (decorated g)
  | some (.name ⟨"match", _⟩) => one (matchStmt g) <|> simpleStmts g
  | _ => simpleStmts g

/-- Statements one after the other. -/
def statements : Parser (List Stmt) := do return (← many (statement g)).flatten

/-- A block: indented statements, or statements on the same line. -/
def block : Parser (List Stmt) := do
  match ← peek? with
  | some .lineEnd => do
    mark .lineEnd
    mark .indent
    let body ← statements g
    mark .dedent
    require (!body.isEmpty)
    return body
  | _ => simpleStmts g

end CodeFlow.Source.Parser
