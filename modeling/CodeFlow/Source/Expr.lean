import CodeFlow.Source.Constant

/-!
# `CodeFlow.Source.Expr` — expressions of source code

The abstract syntax of expressions. Parentheses are not kept; a formatted text is kept as its parts.
-/

namespace CodeFlow.Source

/-- Operators with one operand. -/
inductive UnaryOp where
  | invert
  | not
  | plus
  | minus
deriving Repr, DecidableEq

/-- Operators with two operands. -/
inductive BinaryOp where
  | add
  | sub
  | mul
  | matMul
  | div
  | mod
  | shiftLeft
  | shiftRight
  | bitOr
  | bitXor
  | bitAnd
  | floorDiv
  | pow
deriving Repr, DecidableEq

/-- Operators on truth values. -/
inductive BoolOp where
  | and
  | or
deriving Repr, DecidableEq

/-- Comparisons. -/
inductive CompareOp where
  | eq
  | ne
  | lt
  | le
  | gt
  | ge
  | is
  | isNot
  | isIn
  | notIn
deriving Repr, DecidableEq

/-- How the value of a field is made a text. -/
inductive Conversion where
  | plain
  | quoted
  | ascii
deriving Repr, DecidableEq

mutual

/-- Expressions. -/
inductive Expr where
  | name (id : String)
  | constant (c : Constant)
  | formatted (parts : List FormatPart)
  | unary (op : UnaryOp) (operand : Expr)
  | binary (op : BinaryOp) (left right : Expr)
  | bool (op : BoolOp) (operands : List Expr)
  | compare (first : Expr) (rest : List Comparison)
  | call (function : Expr) (arguments : List Expr) (keywords : List KeywordArg)
  | member (value : Expr) (name : String)
  | subscript (value index : Expr)
  | slice (lower upper step : Option Expr)
  | starred (value : Expr)
  | list (items : List Expr)
  | tuple (items : List Expr)
  | setOf (items : List Expr)
  | dict (items : List DictItem)
  | listComp (item : Expr) (clauses : List ForClause)
  | setComp (item : Expr) (clauses : List ForClause)
  | generator (item : Expr) (clauses : List ForClause)
  | dictComp (key value : Expr) (clauses : List ForClause)
  | conditional (test yes no : Expr)
  | lambda (params : Params) (body : Expr)
  | named (target value : Expr)
  | await (value : Expr)
  | yield (value : Option Expr)
  | yieldFrom (value : Expr)

/-- A part of a formatted text: characters, or a field with its format. -/
inductive FormatPart where
  | chars (codes : List Nat)
  | field (value : Expr) (conversion : Option Conversion) (hasSpec : Bool) (spec : List FormatPart)

/-- One step of a chain of comparisons. -/
inductive Comparison where
  | mk (op : CompareOp) (right : Expr)

/-- An argument passed by name, or a mapping of such arguments. -/
inductive KeywordArg where
  | mk (name : Option String) (value : Expr)

/-- An entry of a dictionary, or a dictionary whose entries are taken over. -/
inductive DictItem where
  | entry (key value : Expr)
  | spread (value : Expr)

/-- A `for` of a comprehension with its conditions. -/
inductive ForClause where
  | mk (isAsync : Bool) (target iterable : Expr) (conditions : List Expr)

/-- A parameter of a function, with its type hint and its default. -/
inductive Param where
  | mk (name : String) (hint default : Option Expr)

/-- The parameters of a function: by position only, plain, the rest by position, by name only, the
rest by name. -/
inductive Params where
  | mk (positional plain : List Param) (rest : Option Param) (named : List Param)
      (namedRest : Option Param)

end

namespace Expr

mutual

/-- Whether a value can be assigned to an expression; one starred part may stand anywhere. -/
def isTarget : Expr → Bool
  | .name _ | .member _ _ | .subscript _ _ => true
  | .starred (.starred _) => false
  | .starred e => isTarget e
  | .tuple items => areTargets items
  | .list items => areTargets items
  | _ => false

/-- Whether values can be assigned to all of some expressions. -/
def areTargets : List Expr → Bool
  | [] => true
  | e :: rest => isTarget e && areTargets rest

end

/-- Whether an expression is a single place: a name, an attribute or a subscript. -/
def isPlace : Expr → Bool
  | .name _ | .member _ _ | .subscript _ _ => true
  | _ => false

mutual

/-- Whether an expression can be deleted. -/
def isDeletable : Expr → Bool
  | .tuple items => areDeletable items
  | .list items => areDeletable items
  | .name _ | .member _ _ | .subscript _ _ => true
  | _ => false

/-- Whether all of some expressions can be deleted. -/
def areDeletable : List Expr → Bool
  | [] => true
  | e :: rest => isDeletable e && areDeletable rest

end

/-- Whether an expression is starred. -/
def isStarred : Expr → Bool
  | .starred _ => true
  | _ => false

end Expr

/-- The name of a parameter. -/
def Param.name : Param → String
  | .mk name _ _ => name

/-- The plain parameters of a function. -/
def Params.plain : Params → List Param
  | .mk _ plain _ _ _ => plain

/-- No parameters. -/
def Params.empty : Params := .mk [] [] none [] none

end CodeFlow.Source
