import CodeFlow.Source.Lexer
import CodeFlow.Source.Parser.Basic
import CodeFlow.Source.Parser.Formatted

/-!
# `CodeFlow.Source.Parser.Expr` — the grammar of expressions

One function per rule. `g` parses what stands inside brackets, after a sign or a `not`, and the like,
so no function here refers to itself.

## Contents
- Lists of expressions, targets, parameters and arguments.
- Atoms, calls, subscripts, powers; chains of binary operators; comparisons and truth values.
- `expression` and what may stand in its place: `namedExpression`, `starExpressions`, `yieldExpr`.
-/

namespace CodeFlow.Source.Parser

variable (g : Grammar)

/-! ## Lists and targets -/

/-- A list of expressions: one by itself, several or one with a comma as a tuple. -/
def tupleOf (items : List Expr × Bool) : Expr :=
  match items with
  | ([e], false) => e
  | (es, _) => .tuple es

/-- A starred operand. -/
def starredOperand : Parser Expr := do
  symbol "*"
  return .starred (← g.operand)

/-- An expression or a starred operand. -/
def starExpression : Parser Expr := do
  if ← atSymbol "*" then starredOperand g else g.expression

/-- Expressions with commas. -/
def starExpressions : Parser Expr := tupleOf <$> commaList (starExpression g)

/-- A name with its value, or an expression. -/
def namedExpression : Parser Expr := do
  match ← get with
  | .name id :: .symbol ":=" :: rest => do
    set rest
    return .named (.name id.text) (← g.expression)
  | _ => do
    let e ← g.expression
    require (!(← atSymbol ":="))
    return e

/-- What may stand between the brackets of a list. -/
def starNamedExpression : Parser Expr := do
  if ← atSymbol "*" then starredOperand g else namedExpression g

/-- A `yield` with its value. -/
def yieldExpr : Parser Expr := do
  keyword "yield"
  if ← keyword? "from" then return .yieldFrom (← g.expression)
  else return .yield (← opt (starExpressions g))

/-- A single place to assign to, perhaps starred. -/
def starTarget : Parser Expr := do
  let e ← if ← atSymbol "*" then starredOperand g else g.operand
  require e.isTarget
  return e

/-- Places to assign to, with commas. -/
def starTargets : Parser Expr := tupleOf <$> commaList (starTarget g)

/-! ## Comprehensions -/

/-- A `for` of a comprehension. -/
def forClause : Parser ForClause := do
  let isAsync ← keyword? "async"
  keyword "for"
  let target ← starTargets g
  keyword "in"
  let iterable ← g.disjunction
  let conditions ← many (do keyword "if"; g.disjunction)
  return .mk isAsync target iterable conditions

/-- One or more `for` of a comprehension. -/
def forClauses : Parser (List ForClause) := many1 (forClause g)

/-- Whether a comprehension goes on here. -/
def atFor : Parser Bool := do return (← atKeyword "for") || (← atKeyword "async")

/-! ## Parameters -/

/-- What has been seen of the parameters of a function. -/
structure ParamState where
  /-- Parameters by position only. -/
  positional : List Param := []
  /-- Plain parameters. -/
  plain : List Param := []
  /-- Whether the slash was seen. -/
  slash : Bool := false
  /-- Whether a parameter with a default was seen. -/
  defaults : Bool := false
  /-- Whether the star was seen. -/
  star : Bool := false
  /-- The parameter after the star. -/
  rest : Option Param := none
  /-- Parameters by name only. -/
  named : List Param := []
  /-- The parameter after two stars. -/
  namedRest : Option Param := none

/-- The parameters seen. -/
def ParamState.toParams (s : ParamState) : Params :=
  .mk s.positional s.plain s.rest s.named s.namedRest

/-- The type hint of a parameter, where there may be one. -/
def paramHint (hints starHint : Bool) : Parser (Option Expr) := do
  if !hints then return none
  else if ← symbol? ":" then
    if starHint then return some (← starExpression g) else return some (← g.expression)
  else return none

/-- A parameter with its hint. -/
def plainParam (hints starHint : Bool) : Parser Param := do
  let id ← name
  return .mk id (← paramHint g hints starHint) none

/-- A parameter with its hint and its default. -/
def defaultParam (hints : Bool) : Parser Param := do
  let id ← name
  let hint ← paramHint g hints false
  if ← symbol? "=" then return .mk id hint (some (← g.expression))
  else return .mk id hint none

/-- Whether a parameter has a default. -/
def hasDefault : Param → Bool
  | .mk _ _ default => default.isSome

/-- One item between the commas of a parameter list. After a default, plain parameters need one; the
slash comes once, after a parameter and before the star; nothing follows two stars. -/
def paramItem (hints : Bool) (s : ParamState) : Parser ParamState := do
  require s.namedRest.isNone
  if ← symbol? "/" then
    require (!s.slash && !s.star && !s.plain.isEmpty)
    return { s with positional := s.plain, plain := [], slash := true }
  else if ← symbol? "**" then
    require (!s.star || s.rest.isSome || !s.named.isEmpty)
    return { s with namedRest := some (← plainParam g hints false) }
  else if ← symbol? "*" then
    require (!s.star)
    if ← atSymbol "," then return { s with star := true }
    else return { s with star := true, rest := some (← plainParam g hints true) }
  else
    let p ← defaultParam g hints
    if s.star then return { s with named := s.named ++ [p] }
    else
      require (hasDefault p || !s.defaults)
      return { s with plain := s.plain ++ [p], defaults := s.defaults || hasDefault p }

/-- Items of a parameter list, with commas. -/
def paramItems (hints : Bool) : Nat → ParamState → Parser ParamState
  | 0, s => pure s
  | n + 1, s => do
    match ← opt (paramItem g hints s) with
    | none => return s
    | some s => if ← symbol? "," then paramItems hints n s else return s

/-- The parameters of a function. A bare star needs a parameter after it. -/
def params (hints : Bool) : Parser Params := do
  let s ← paramItems g hints ((← get).length + 1) {}
  require (!s.star || s.rest.isSome || !s.named.isEmpty)
  return s.toParams

/-! ## Arguments -/

/-- What has been seen of the arguments of a call. -/
structure ArgState where
  /-- Arguments by position. -/
  arguments : List Expr := []
  /-- Arguments by name. -/
  keywords : List KeywordArg := []
  /-- Whether an argument by name was seen. -/
  named : Bool := false
  /-- Whether a mapping of arguments was seen. -/
  mapped : Bool := false

/-- One item between the commas of a call. After an argument by name, others by position have to be
starred; after a mapping, none may be. -/
def argItem (s : ArgState) : Parser ArgState := do
  match ← get with
  | .name id :: .symbol "=" :: rest => do
    set rest
    let e ← g.expression
    return { s with keywords := s.keywords ++ [.mk (some id.text) e], named := true }
  | _ => do
    if ← symbol? "**" then
      let e ← g.expression
      return { s with keywords := s.keywords ++ [.mk none e], named := true, mapped := true }
    else if ← symbol? "*" then
      require (!s.mapped)
      let e ← g.expression
      return { s with arguments := s.arguments ++ [.starred e] }
    else
      require (!s.named)
      let e ← namedExpression g
      require (!(← atSymbol "="))
      return { s with arguments := s.arguments ++ [e] }

/-- Items of a call, with commas. -/
def argItems : Nat → ArgState → Parser ArgState
  | 0, s => pure s
  | n + 1, s => do
    match ← opt (argItem g s) with
    | none => return s
    | some s => if ← symbol? "," then argItems n s else return s

/-- Goes on with arguments after the first item, up to the closing parenthesis. -/
def argumentsFrom (s : ArgState) : Parser (List Expr × List KeywordArg) := do
  let s ← if ← symbol? "," then argItems g (← get).length s else pure s
  symbol ")"
  return (s.arguments, s.keywords)

/-- The arguments of a class, after the opening parenthesis. -/
def classArguments : Parser (List Expr × List KeywordArg) := do
  if ← symbol? ")" then return ([], [])
  else argumentsFrom g (← argItem g {})

/-- The arguments of a call, after the opening parenthesis; a single comprehension needs no
parentheses of its own. -/
def arguments : Parser (List Expr × List KeywordArg) := do
  if ← symbol? ")" then return ([], [])
  else
    let s ← argItem g {}
    if ← atFor then
      match s.arguments with
      | [e] => do
        require (!e.isStarred)
        let clauses ← forClauses g
        symbol ")"
        return ([.generator e clauses], [])
      | _ => failure
    else argumentsFrom g s

/-! ## Atoms -/

/-- What stands in parentheses: a tuple, an expression or a comprehension. -/
def parenthesized : Parser Expr := do
  symbol "("
  if ← symbol? ")" then return .tuple []
  else if ← atKeyword "yield" then
    let e ← yieldExpr g
    symbol ")"
    return e
  else
    let first ← starNamedExpression g
    if ← atFor then
      require (!first.isStarred)
      let clauses ← forClauses g
      symbol ")"
      return .generator first clauses
    else
      let (rest, trailing) ← commaRest (starNamedExpression g) (← get).length
      symbol ")"
      if rest.isEmpty && !trailing then
        require (!first.isStarred)
        return first
      else return .tuple (first :: rest)

/-- A list or a comprehension in square brackets. -/
def bracketed : Parser Expr := do
  symbol "["
  if ← symbol? "]" then return .list []
  else
    let first ← starNamedExpression g
    if ← atFor then
      require (!first.isStarred)
      let clauses ← forClauses g
      symbol "]"
      return .listComp first clauses
    else
      let (rest, _) ← commaRest (starNamedExpression g) (← get).length
      symbol "]"
      return .list (first :: rest)

/-- An entry of a dictionary. -/
def dictEntry : Parser (Expr × Expr) := do
  let key ← g.expression
  symbol ":"
  return (key, ← g.expression)

/-- An entry of a dictionary, or a dictionary whose entries are taken over. -/
def dictItem : Parser DictItem := do
  if ← symbol? "**" then return .spread (← g.operand)
  else
    let (key, value) ← dictEntry g
    return .entry key value

/-- Whether a name with its value comes next. -/
def atNamed : Parser Bool := do
  match ← get with
  | .name _ :: .symbol ":=" :: _ => return true
  | _ => return false

/-- The rest of a dictionary or of its comprehension, after the first key. -/
def dictAfterKey (key : Expr) : Parser Expr := do
  let value ← g.expression
  if ← atFor then
    let clauses ← forClauses g
    symbol "\x7d"
    return .dictComp key value clauses
  else
    let (rest, _) ← commaRest (dictItem g) (← get).length
    symbol "\x7d"
    return .dict (.entry key value :: rest)

/-- The rest of a set or of its comprehension, after the first item. -/
def setAfterItem (first : Expr) : Parser Expr := do
  if ← atFor then
    require (!first.isStarred)
    let clauses ← forClauses g
    symbol "\x7d"
    return .setComp first clauses
  else
    let (rest, _) ← commaRest (starNamedExpression g) (← get).length
    symbol "\x7d"
    return .setOf (first :: rest)

/-- A dictionary, a set or a comprehension in braces. -/
def braced : Parser Expr := do
  symbol "\x7b"
  if ← symbol? "\x7d" then return .dict []
  else if ← atSymbol "**" then
    let (items, _) ← commaList (dictItem g)
    symbol "\x7d"
    return .dict items
  else
    let isNamed ← atNamed
    let first ← starNamedExpression g
    if isNamed || first.isStarred then setAfterItem g first
    else if ← symbol? ":" then dictAfterKey g first
    else setAfterItem g first

/-- Takes a string literal. -/
def stringLiteral : Parser StringLiteral := fun ts =>
  match ts with
  | .string l :: rest => some (l, rest)
  | _ => none

/-- String literals next to each other. -/
def strings : Parser Expr := do
  let ls ← many1 stringLiteral
  match Formatted.joinLiterals? g.fieldValue ls with
  | some e => return e
  | none => failure

/-- An atom. -/
def atom : Parser Expr := do
  match ← get with
  | .name id :: rest => do set rest; return .name id.text
  | .number n :: rest => do set rest; return .constant n
  | .keyword "True" :: rest => do set rest; return .constant .true
  | .keyword "False" :: rest => do set rest; return .constant .false
  | .keyword "None" :: rest => do set rest; return .constant .none
  | .symbol "..." :: rest => do set rest; return .constant .ellipsis
  | .string _ :: _ => strings g
  | .symbol "(" :: _ => parenthesized g
  | .symbol "[" :: _ => bracketed g
  | .symbol "\x7b" :: _ => braced g
  | _ => failure

/-! ## Calls, members and subscripts -/

/-- The rest of a slice, after its first colon. -/
def sliceAfter (lower : Option Expr) : Parser Expr := do
  let upper ← opt g.expression
  let step ← if ← symbol? ":" then opt g.expression else pure none
  return .slice lower upper step

/-- A slice, or an index. -/
def sliceItem : Parser Expr := do
  if ← symbol? ":" then sliceAfter g none
  else
    let isNamed ← atNamed
    let e ← namedExpression g
    if isNamed then return e
    else if ← symbol? ":" then sliceAfter g (some e)
    else return e

/-- A slice, an index or a starred expression. -/
def subscriptItem : Parser Expr := do
  if ← symbol? "*" then return .starred (← g.expression) else sliceItem g

/-- What stands between the brackets of a subscript. -/
def subscriptIndex : Parser Expr := do
  match ← commaList (subscriptItem g) with
  | ([e], false) => return if e.isStarred then .tuple [e] else e
  | (es, _) => return .tuple es

/-- Goes on with calls, members and subscripts of what was read. -/
def trailers : Nat → Expr → Parser Expr
  | 0, e => pure e
  | n + 1, e => do
    if ← symbol? "." then
      let id ← name
      trailers n (.member e id)
    else if ← symbol? "(" then
      let (args, keywords) ← arguments g
      trailers n (.call e args keywords)
    else if ← symbol? "[" then
      let index ← subscriptIndex g
      symbol "]"
      trailers n (.subscript e index)
    else return e

/-- An atom with its calls, members and subscripts. -/
def primary : Parser Expr := do
  let e ← atom g
  trailers g (← get).length e

/-! ## Operators -/

/-- A primary, perhaps awaited. -/
def awaited : Parser Expr := do
  if ← keyword? "await" then return .await (← primary g) else primary g

/-- A power. The exponent may be signed. -/
def power : Parser Expr := do
  let base ← awaited g
  if ← symbol? "**" then return .binary .pow base (← g.factor) else return base

/-- A signed factor or a power. -/
def factor : Parser Expr := do
  if ← symbol? "+" then return .unary .plus (← g.factor)
  else if ← symbol? "-" then return .unary .minus (← g.factor)
  else if ← symbol? "~" then return .unary .invert (← g.factor)
  else power g

/-- Takes one of some operators. -/
def binaryOp? (ops : List (String × BinaryOp)) : Parser (Option BinaryOp) := do
  match ← get with
  | .symbol s :: rest =>
    match ops.lookup s with
    | some op => do set rest; return some op
    | none => return none
  | _ => return none

/-- Goes on with operators of one rank, from left to right. -/
def chainFrom (ops : List (String × BinaryOp)) (operand : Parser Expr) : Nat → Expr → Parser Expr
  | 0, left => pure left
  | n + 1, left => do
    match ← binaryOp? ops with
    | some op => do
      let right ← operand
      chainFrom ops operand n (.binary op left right)
    | none => return left

/-- Operands with operators of one rank between them. -/
def chain (ops : List (String × BinaryOp)) (operand : Parser Expr) : Parser Expr := do
  let first ← operand
  chainFrom ops operand (← get).length first

/-- Products. -/
def term : Parser Expr :=
  chain [("*", .mul), ("/", .div), ("//", .floorDiv), ("%", .mod), ("@", .matMul)] (factor g)

/-- Sums. -/
def sum : Parser Expr := chain [("+", .add), ("-", .sub)] (term g)

/-- Shifts. -/
def shift : Parser Expr := chain [("<<", .shiftLeft), (">>", .shiftRight)] (sum g)

/-- Operands of comparisons. -/
def operand : Parser Expr :=
  chain [("|", .bitOr)] (chain [("^", .bitXor)] (chain [("&", .bitAnd)] (shift g)))

/-- The symbols of comparisons. -/
def comparisonSymbols : List (String × CompareOp) :=
  [("==", .eq), ("!=", .ne), ("<=", .le), ("<", .lt), (">=", .ge), (">", .gt)]

/-- Takes a comparison. -/
def compareOp? : Parser (Option CompareOp) := do
  match ← get with
  | .symbol s :: rest =>
    match comparisonSymbols.lookup s with
    | some op => do set rest; return some op
    | none => return none
  | .keyword "not" :: .keyword "in" :: rest => do set rest; return some .notIn
  | .keyword "in" :: rest => do set rest; return some .isIn
  | .keyword "is" :: .keyword "not" :: rest => do set rest; return some .isNot
  | .keyword "is" :: rest => do set rest; return some .is
  | _ => return none

/-- One step of a chain of comparisons. -/
def comparisonStep : Parser Comparison := do
  match ← compareOp? with
  | some op => return .mk op (← operand g)
  | none => failure

/-- A chain of comparisons. -/
def comparison : Parser Expr := do
  let first ← operand g
  match ← many (comparisonStep g) with
  | [] => return first
  | rest => return .compare first rest

/-- A negation or a comparison. -/
def inversion : Parser Expr := do
  if ← keyword? "not" then return .unary .not (← g.inversion) else comparison g

/-- Operands with `and` or `or` between them. -/
def boolChain (word : String) (op : BoolOp) (operand : Parser Expr) : Parser Expr := do
  let first ← operand
  match ← many (do keyword word; operand) with
  | [] => return first
  | rest => return .bool op (first :: rest)

/-- An expression with no conditional and no `lambda` at its top. -/
def disjunction : Parser Expr := boolChain "or" .or (boolChain "and" .and (inversion g))

/-- A function without a name. -/
def lambdaExpr : Parser Expr := do
  keyword "lambda"
  let ps ← params g false
  symbol ":"
  return .lambda ps (← g.expression)

/-- Any expression but a starred one, an assignment or a `yield`. -/
def expression : Parser Expr := do
  if ← atKeyword "lambda" then lambdaExpr g
  else
    let yes ← disjunction g
    if ← keyword? "if" then
      let test ← disjunction g
      keyword "else"
      return .conditional test yes (← g.expression)
    else return yes

/-- The expression in a field of a formatted text, which may go over several lines. -/
def fieldValue (text : List Char) : Option Expr := do
  let ts ← Lexer.tokens? ('(' :: text ++ [')'])
  let (e, _) ← starExpressions g ts
  return e

end CodeFlow.Source.Parser
