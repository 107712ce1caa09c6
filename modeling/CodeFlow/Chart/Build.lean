import CodeFlow.Chart.Step
import CodeFlow.Source.Printer

/-!
# `CodeFlow.Chart.Build` — charts of statements

Steps are numbered from a supply that runs on from chart to chart. Building takes more numbers than
there are steps: every part of a chart takes some for itself, and the body of a loop is built twice,
the first time for nothing. A chart cannot be built if a statement in it has no text; the numbers taken
until then stay taken.

## Contents
- `Numbered`: computations that take numbers and may fail.
- `build`, `buildList`: the chart of a statement and of statements one after the other.
- `ofProgram`: the chart of a program.
-/

namespace CodeFlow.Chart

open Source

/-- How charts are drawn. -/
structure Options where
  /-- Conditions and loops with a single step are drawn as one step. -/
  simplify : Bool := true
  /-- Conditions are aligned. -/
  align : Bool := true

/-! ## Numbers -/

/-- Computations that take numbers from a supply and may fail. What was taken before a failure stays
taken. -/
abbrev Numbered := OptionT (StateM Nat)

/-- Takes the next number. -/
def take : Numbered Nat := do
  let n ← get
  set (n + 1)
  return n

/-- A new step. It takes a number before its text is known and one after; the second is in its name. -/
def newStep (kind : Kind) (text : Option String) : Numbered Step := do
  let _ ← take
  match text with
  | none => failure
  | some t => do
    let n ← take
    return ⟨kind.letters ++ toString n, kind, t⟩

/-! ## Texts -/

/-- Drops the characters of a set from the begin of a text. -/
def dropLetters (letters : String) (t : String) : String :=
  String.ofList (t.toList.dropWhile letters.toList.contains)

/-- The text of a condition: the first line of its statement, without the colon. -/
def conditionText? (s : Stmt) : Option String :=
  s.source?.map fun t =>
    match Text.lines t.toList with
    | [] => "True"
    | first :: _ => String.ofList (Text.dropEndWhile (· == ':') first)

/-- The text of what is returned. -/
def returnText? (s : Stmt) : Option String :=
  s.source?.map fun t => "output: " ++ dropLetters "return" t

/-- The text of the plain parameters of a function. -/
def inputText (params : Params) : String :=
  "input: " ++ Text.joinStrings ", " (params.plain.map (·.name))

/-! ## Statements -/

/-- A condition as one step, if it has no branch for no and a single step for yes. A step that leads
nowhere counts as single whatever follows it. -/
def simpleCond? (cond : Step) (yes no : List Flow) : Option String :=
  let text (s : Step) := s.text ++ " if " ++ dropLetters "if" cond.text
  match yes, no with
  | [.step s], [] => some (text s)
  | .jump s :: _, [] => some (text s)
  | _, _ => none

/-- A loop as one step, if its body is a single step. -/
def simpleLoop? (cond : Step) (body : List Flow) : Option String :=
  match body with
  | [.step s] => some (s.text ++ " while " ++ dropLetters "while" (dropLetters "for" cond.text))
  | _ => none

/-- Puts a single step in place of a part, under the name of its condition. -/
def simplified (o : Options) (cond : Step) (text : Option String) (flow : Flow) :
    Numbered Flow :=
  match o.simplify, text with
  | true, some t => do
    let _ ← take
    return .merged ⟨cond.name, .operation, t⟩
  | _, _ => return flow

/-- The chart of a statement that is drawn as one step. -/
def buildSimple (s : Stmt) : Numbered Flow :=
  match s with
  | .breakLoop | .continueLoop => do return .jump (← newStep .routine s.source?)
  | .expr (.call _ _ _) => do return .step (← newStep .routine s.source?)
  | .expr (.yield _) => do return .step (← newStep .transfer (s.source?.map ("output: " ++ ·)))
  | _ => do return .step (← newStep .operation s.source?)

/-- The chart of a `return`. -/
def buildReturn (s : Stmt) (value : Option Expr) : Numbered Flow := do
  let _ ← take
  let finish ← newStep .finish (some "end function return")
  let output ← match value with
    | none => pure none
    | some _ => some <$> newStep .transfer (returnText? s)
  let _ ← take
  return .ret output finish

/-- A block takes a number before its statements. -/
def inBlock {α : Type} (body : Numbered α) : Numbered α := do
  let _ ← take
  body

/-- The chart of a loop. The body is built a first time for nothing. -/
def buildLoop (o : Options) (text : Option String) (body : Numbered (List Flow)) :
    Numbered Flow := do
  let _ ← take
  let cond ← newStep .condition text
  let _ ← take
  let _ ← inBlock body
  let inner ← inBlock body
  let _ ← take
  let _ ← take
  simplified o cond (simpleLoop? cond inner) (.loop cond inner)

mutual

/-- The chart of a statement, where `apart` says that a condition is followed by another one and kept
apart from it. -/
def build (o : Options) (apart : Bool) : Stmt → Numbered Flow
  | .cond test body orElse => do
    let _ ← take
    let cond ← newStep .condition (conditionText? (.cond test body orElse))
    let _ ← take
    let yes ← inBlock (buildList o body)
    let _ ← take
    let no ← inBlock (buildList o orElse)
    let _ ← take
    simplified o cond (simpleCond? cond yes no) (.branch cond apart (o.align && no.isEmpty) yes no)
  | .whileLoop test body orElse =>
    buildLoop o (conditionText? (.whileLoop test body orElse)) (buildList o body)
  | .forLoop false target iterable body orElse =>
    buildLoop o (conditionText? (.forLoop false target iterable body orElse)) (buildList o body)
  | .function false name params _ _ body => do
    let _ ← take
    let start ← newStep .start (some ("start " ++ name))
    let input ← newStep .transfer (some (inputText params))
    let inner ← inBlock (buildList o body)
    let finish ← newStep .finish (some ("end " ++ name))
    let _ ← take
    return .function start input inner finish
  | .ret value => buildReturn (.ret value) value
  | s => buildSimple s

/-- The charts of statements one after the other. -/
def buildList (o : Options) : List Stmt → Numbered (List Flow)
  | [] => return []
  | s :: rest => do
    let f ← build o (o.align && s.isCond && (rest.head?.any (·.isCond))) s
    let fs ← buildList o rest
    return f :: fs

end

/-! ## Programs -/

/-- The chart of a program as one step. -/
def buildWhole (body : List Stmt) : Numbered (List Flow) := do
  let _ ← take
  return [.step (← newStep .operation (program? body))]

/-- The chart of a program; `inner` if its statements are charted one by one. There is none for a
program without statements. -/
def ofProgram (o : Options) (inner : Bool) (body : List Stmt) : Numbered (List Flow) := do
  if body.isEmpty then failure
  let flow ← if inner then inBlock (buildList o body) else buildWhole body
  let _ ← take
  return flow

end CodeFlow.Chart
