import CodeFlow.Selection
import CodeFlow.Window.Session

/-!
# `CodeFlow.Window.Detect` — filling in extensions and range

When a folder is chosen, the extensions of its source files and the range of their numbers are filled in.

## Contents
- `knownExtensions`, `sourceExtension?`: source files by name.
- `sourceNames`: the source files of a folder.
- `detect`, `browse`.
-/

namespace CodeFlow.Window

open Files Text Selection

/-- The extensions of source files. -/
def knownExtensions : List String :=
  ["py", "java", "js", "cpp", "c", "h", "cs", "php", "html", "css", "ts", "txt"]

/-- The extension of a source file, in lower case. -/
def sourceExtension? (name : String) : Option String :=
  if name.toList.contains '.' then
    let ext := String.ofList (lower (name.toList.reverse.takeWhile (· != '.')).reverse)
    if ext ∈ knownExtensions then some ext else none
  else none

/-- The names of the source files of a folder. -/
def sourceNames (t : FileTree) (recursive : Bool) (folder : String) :
    Except Failure (List String) :=
  let isSource (name : String) : Bool := (sourceExtension? name).isSome
  if recursive then
    match t.search folder with
    | .error e => .error (.unusable e folder)
    | .ok visits => .ok (visits.flatMap fun v => v.files.filter isSource)
  else
    match t.list folder with
    | .error e => .error (.unusable e folder)
    | .ok names => .ok (names.filter fun n => t.isFile (join folder n) && isSource n)

/-- The numbers in names. -/
def numbers : List String → Except TooManyDigits (List Nat)
  | [] => .ok []
  | name :: rest =>
    match firstNumber name.toList with
    | .error e => .error e
    | .ok n => (numbers rest).map (n.toList ++ ·)

/-- The least and the greatest of some numbers. -/
def range? : List Nat → Option (Nat × Nat)
  | [] => none
  | n :: rest => some (rest.foldl min n, rest.foldl max n)

/-- Fills in the extensions of some names, if there are any. -/
def fillExtensions (names : List String) : Task Unit := do
  let exts := sortBy textLe (names.filterMap sourceExtension?).eraseDups
  if exts.isEmpty then return ()
  else
    let text := joinStrings ", " exts
    setEntry .exts text
    say ("Extensiones detectadas automáticamente: " ++ text)

/-- Fills in a range; without one the fields are emptied. -/
def fillRange (range : Option (Nat × Nat)) : Task Unit := do
  match range with
  | some (first, last) =>
    setEntry .first (toString first)
    setEntry .last (toString last)
    say ("Rango detectado: " ++ toString first ++ " - " ++ toString last)
  | none =>
    setEntry .first ""
    setEntry .last ""

/-- Reports a search that failed. -/
def reportDetect (e : Failure) : Task Unit :=
  say ("Error detectando contenido de la carpeta: " ++ e.message)

/-- Fills in the extensions and the range of a folder. -/
def detect (folder : String) : Task Unit := do
  let s ← get
  match sourceNames s.workspace.files s.controls.switches.recursive folder with
  | .error e => reportDetect e
  | .ok names =>
    fillExtensions names
    match numbers names with
    | .error e => reportDetect (.digits e)
    | .ok ns => fillRange (range? ns)

/-- Takes over a folder that was chosen, unless the choice was called off. -/
def browse (folder : String) : Task Unit := do
  if folder.isEmpty then return ()
  else
    setEntry .path folder
    detect folder

end CodeFlow.Window
