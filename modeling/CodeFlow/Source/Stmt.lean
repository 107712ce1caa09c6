import CodeFlow.Source.Expr

/-!
# `CodeFlow.Source.Stmt` — statements of source code

## Contents
- `Alias`, `WithItem`, `Pattern`: parts of statements.
- `Stmt`, with `Handler` and `MatchCase`.
- `Stmt.definition?`: the name and the body of a function or class.
-/

namespace CodeFlow.Source

/-- An imported name and the name it is known by. -/
structure Alias where
  /-- The name imported. -/
  name : String
  /-- The name it is known by, if that is another one. -/
  asName : Option String
deriving Repr, DecidableEq

/-- A context of a `with` statement and where its value goes. -/
structure WithItem where
  /-- The context. -/
  context : Expr
  /-- Where the value of the context is put. -/
  target : Option Expr

/-- A pattern of a `match` statement. -/
inductive Pattern where
  /-- A value to compare with. -/
  | value (e : Expr)
  /-- Anything, bound to a name if one is given. -/
  | capture (name : Option String)
  /-- What the pattern matches, bound to a name. -/
  | binding (pattern : Pattern) (name : String)
  /-- The rest of a sequence. -/
  | rest (name : Option String)
  | sequence (items : List Pattern)
  | mapping (keys : List Expr) (values : List Pattern) (rest : Option String)
  | classOf (type : Expr) (positional : List Pattern) (names : List String)
      (named : List Pattern)
  | alternatives (patterns : List Pattern)

mutual

/-- Statements. -/
inductive Stmt where
  | expr (value : Expr)
  | assign (targets : List Expr) (value : Expr)
  | augAssign (target : Expr) (op : BinaryOp) (value : Expr)
  /-- A declaration; `simple` if the target is a name without parentheses. -/
  | declare (target hint : Expr) (value : Option Expr) (simple : Bool)
  | ret (value : Option Expr)
  | pass
  | breakLoop
  | continueLoop
  | delete (targets : List Expr)
  | check (test : Expr) (message : Option Expr)
  | globals (names : List String)
  | nonlocals (names : List String)
  | raise (exception cause : Option Expr)
  | importModules (names : List Alias)
  | importFrom (level : Nat) (module : Option String) (names : List Alias)
  | cond (test : Expr) (body orElse : List Stmt)
  | whileLoop (test : Expr) (body orElse : List Stmt)
  | forLoop (isAsync : Bool) (target iterable : Expr) (body orElse : List Stmt)
  | withContexts (isAsync : Bool) (items : List WithItem) (body : List Stmt)
  /-- A `try`; `isGroup` if its handlers take groups of exceptions. -/
  | tryBlock (isGroup : Bool) (body : List Stmt) (handlers : List Handler)
      (orElse atEnd : List Stmt)
  | function (isAsync : Bool) (name : String) (params : Params) (returns : Option Expr)
      (decorators : List Expr) (body : List Stmt)
  | classDef (name : String) (bases : List Expr) (keywords : List KeywordArg)
      (decorators : List Expr) (body : List Stmt)
  | matchCases (subject : Expr) (cases : List MatchCase)

/-- A handler of a `try` statement. -/
inductive Handler where
  | mk (type : Option Expr) (name : Option String) (body : List Stmt)

/-- A case of a `match` statement. -/
inductive MatchCase where
  | mk (pattern : Pattern) (guard : Option Expr) (body : List Stmt)

end

namespace Stmt

/-- The name and the body of a function or class. -/
def definition? : Stmt → Option (String × List Stmt)
  | .function _ name _ _ _ body => some (name, body)
  | .classDef name _ _ _ body => some (name, body)
  | _ => none

/-- The name of a function. -/
def functionName? : Stmt → Option String
  | .function _ name _ _ _ _ => some name
  | _ => none

/-- The name and the body of a class. -/
def class? : Stmt → Option (String × List Stmt)
  | .classDef name _ _ _ body => some (name, body)
  | _ => none

/-- Whether a statement is a condition. -/
def isCond : Stmt → Bool
  | .cond _ _ _ => true
  | _ => false

end Stmt

end CodeFlow.Source
