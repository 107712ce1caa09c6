import CodeFlow.Source.Parser.Expr

/-!
# `CodeFlow.Source.Parser.Pattern` — the grammar of patterns

Patterns of `match` statements: values, captures, sequences, mappings and classes, with alternatives
and bindings.
-/

namespace CodeFlow.Source.Parser

variable (g : Grammar)

/-- Takes a number. -/
def number : Parser Constant := fun ts =>
  match ts with
  | .number n :: rest => some (n, rest)
  | _ => none

/-- Whether a number is imaginary. -/
def isImaginary : Constant → Bool
  | .imaginary _ => true
  | _ => false

/-- A number with an optional minus sign. -/
def signedNumber : Parser (Expr × Constant) := do
  if ← symbol? "-" then
    let n ← number
    return (.unary .minus (.constant n), n)
  else
    let n ← number
    return (.constant n, n)

/-- A number, or a real number and an imaginary one added up. -/
def numberPattern : Parser Expr := do
  let (e, n) ← signedNumber
  match ← binaryOp? [("+", .add), ("-", .sub)] with
  | none => return e
  | some op =>
    let m ← number
    require (!isImaginary n && isImaginary m)
    return .binary op e (.constant m)

/-- A constant in a pattern. -/
def literalPattern : Parser Expr := do
  match ← get with
  | .keyword "None" :: rest => do set rest; return .constant .none
  | .keyword "True" :: rest => do set rest; return .constant .true
  | .keyword "False" :: rest => do set rest; return .constant .false
  | .string _ :: _ => strings g
  | _ => numberPattern

/-- A name with members. -/
def dottedExpr : Parser Expr := do
  let first ← name
  let rest ← many (do symbol "."; name)
  return rest.foldl .member (.name first)

/-- The name for what a pattern captures; a single underscore captures nothing. -/
def captureName : Parser String := do
  let id ← name
  require (id != "_")
  return id

/-- The rest of a sequence. -/
def restPattern : Parser Pattern := do
  symbol "*"
  let id ← name
  return .rest (if id == "_" then none else some id)

/-- A pattern, or the rest of a sequence. -/
def sequenceItem : Parser Pattern := do
  if ← atSymbol "*" then restPattern else g.pattern

/-- Patterns in parentheses: a sequence, or a pattern by itself. -/
def groupPattern : Parser Pattern := do
  symbol "("
  if ← symbol? ")" then return .sequence []
  else
    let isRest ← atSymbol "*"
    let (items, trailing) ← commaList (sequenceItem g)
    symbol ")"
    match items, trailing with
    | [p], false => do
      require (!isRest)
      return p
    | _, _ => return .sequence items

/-- Patterns in square brackets. -/
def listPattern : Parser Pattern := do
  symbol "["
  if ← symbol? "]" then return .sequence []
  else
    let (items, _) ← commaList (sequenceItem g)
    symbol "]"
    return .sequence items

/-- A name with at least one member. -/
def memberExpr : Parser Expr := do
  match ← dottedExpr with
  | .member e id => return .member e id
  | _ => failure

/-- An entry of a mapping pattern, or the rest of the mapping. -/
def mappingItem : Parser (Sum (Expr × Pattern) String) := do
  if ← symbol? "**" then return .inr (← captureName)
  else
    let key ← memberExpr <|> literalPattern g
    symbol ":"
    return .inl (key, ← g.pattern)

/-- A mapping pattern. The rest of the mapping comes last. -/
def mappingPattern : Parser Pattern := do
  symbol "\x7b"
  if ← symbol? "\x7d" then return .mapping [] [] none
  else
    let (items, _) ← commaList (mappingItem g)
    symbol "\x7d"
    let entries := items.filterMap fun i => i.getLeft?
    let rests := items.filterMap fun i => i.getRight?
    require (rests.isEmpty || (rests.length == 1 && (items.getLast?.any (·.isRight))))
    return .mapping (entries.map (·.1)) (entries.map (·.2)) rests.head?

/-- A pattern for an attribute of an instance, by position or by name. -/
def classItem : Parser (Option String × Pattern) := do
  match ← get with
  | .name id :: .symbol "=" :: rest => do
    set rest
    return (some id.text, ← g.pattern)
  | _ => return (none, ← g.pattern)

/-- The patterns of a class, after the opening parenthesis. Those by position come first. -/
def classPattern (type : Expr) : Parser Pattern := do
  if ← symbol? ")" then return .classOf type [] [] []
  else
    let (items, _) ← commaList (classItem g)
    symbol ")"
    let positional := items.takeWhile (·.1.isNone)
    let named := items.dropWhile (·.1.isNone)
    require (named.all (·.1.isSome))
    return .classOf type (positional.map (·.2)) (named.filterMap (·.1)) (named.map (·.2))

/-- A pattern that begins with a name: a capture, a value or a class. -/
def namePattern : Parser Pattern := do
  let e ← dottedExpr
  if ← symbol? "(" then classPattern g e
  else
    match e with
    | .name id => do
      require (!(← atSymbol "="))
      return .capture (if id == "_" then none else some id)
    | _ => do
      require (!(← atSymbol "="))
      return .value e

/-- A pattern without alternatives. -/
def closedPattern : Parser Pattern := do
  match ← get with
  | .name _ :: _ => namePattern g
  | .symbol "(" :: _ => groupPattern g
  | .symbol "[" :: _ => listPattern g
  | .symbol "\x7b" :: _ => mappingPattern g
  | _ => return .value (← literalPattern g)

/-- Alternatives, perhaps bound to a name. -/
def pattern : Parser Pattern := do
  let first ← closedPattern g
  let rest ← many (do symbol "|"; closedPattern g)
  let p := if rest.isEmpty then first else .alternatives (first :: rest)
  if ← keyword? "as" then return .binding p (← captureName) else return p

/-- What stands after `case`: a pattern, or a sequence without brackets. -/
def casePattern : Parser Pattern := do
  let isRest ← atSymbol "*"
  match ← commaList (sequenceItem g) with
  | ([p], false) => do
    require (!isRest)
    return p
  | (items, _) => return .sequence items

end CodeFlow.Source.Parser
