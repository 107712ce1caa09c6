import CodeFlow.Source.Stmt

/-!
# `CodeFlow.Source.Imports` — what a program imports

Imports are listed by depth: those of the outermost statements first, then those one level inside, and so
on; at each depth in the order of the text. A handler of a `try` and a case of a `match` are a level of
their own.

## Contents
- `Import`: a module that is named.
- `mergeLevels`: puts rows of levels side by side.
- `imports`: the imports of a program.
-/

namespace CodeFlow.Source

/-- A module named by an import. -/
structure Import where
  /-- How many points stand before the name. -/
  level : Nat
  /-- The name, with points between its parts; empty if there are only points before it. -/
  module : String
deriving Repr, DecidableEq

/-- Puts the entries of each level of one row before those of another. -/
def mergeLevels {α : Type} : List (List α) → List (List α) → List (List α)
  | [], ys => ys
  | xs, [] => xs
  | x :: xs, y :: ys => (x ++ y) :: mergeLevels xs ys

mutual

/-- The imports of a statement by depth. -/
def Stmt.importLevels : Stmt → List (List Import)
  | .importModules names => [names.map fun a => ⟨0, a.name⟩]
  | .importFrom level module _ => [[⟨level, module.getD ""⟩]]
  | .cond _ body orElse => [] :: mergeLevels (listImportLevels body) (listImportLevels orElse)
  | .whileLoop _ body orElse => [] :: mergeLevels (listImportLevels body) (listImportLevels orElse)
  | .forLoop _ _ _ body orElse =>
    [] :: mergeLevels (listImportLevels body) (listImportLevels orElse)
  | .withContexts _ _ body => [] :: listImportLevels body
  | .tryBlock _ body handlers orElse atEnd =>
    [] :: mergeLevels (listImportLevels body) (mergeLevels (handlerImportLevels handlers)
      (mergeLevels (listImportLevels orElse) (listImportLevels atEnd)))
  | .function _ _ _ _ _ body => [] :: listImportLevels body
  | .classDef _ _ _ _ body => [] :: listImportLevels body
  | .matchCases _ cases => [] :: caseImportLevels cases
  | _ => []

/-- The imports of statements by depth. -/
def listImportLevels : List Stmt → List (List Import)
  | [] => []
  | s :: rest => mergeLevels s.importLevels (listImportLevels rest)

/-- The imports of handlers by depth. -/
def handlerImportLevels : List Handler → List (List Import)
  | [] => []
  | .mk _ _ body :: rest => mergeLevels ([] :: listImportLevels body) (handlerImportLevels rest)

/-- The imports of cases by depth. -/
def caseImportLevels : List MatchCase → List (List Import)
  | [] => []
  | .mk _ _ body :: rest => mergeLevels ([] :: listImportLevels body) (caseImportLevels rest)

end

/-- The imports of a program, the outermost first. -/
def imports (program : List Stmt) : List Import := (listImportLevels program).flatten

end CodeFlow.Source
