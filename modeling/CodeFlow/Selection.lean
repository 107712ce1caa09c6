import CodeFlow.Files.Access
import CodeFlow.NameFilter

/-!
# `CodeFlow.Selection` — the files a run starts from

A folder is searched, alone or with all folders inside, for files with one of some extensions whose names
pass a filter. They are taken by number if all have one, and by path otherwise, folder by folder.

## Contents
- `extensions`, `hasExtension`: extensions as they are entered.
- `candidates`, `chosen`: what is found, and what of it passes.
- `ordered`, `groups`: the order.
- `Failure`: why a search fails.
- `seeds`.
-/

namespace CodeFlow.Selection

open Files Text

/-! ## Extensions -/

/-- An extension with one point before it and none inside. -/
def withPoint (t : List Char) : List Char := '.' :: t.filter (· != '.')

/-- The extensions of an entry, divided by commas; the one of source code if there are none. -/
def extensions (entry : String) : List (List Char) :=
  let parts := ((splitOnChar ',' (strip entry.toList)).map strip).filter (!·.isEmpty)
  if parts.isEmpty then [['.', 'p', 'y']] else parts.map withPoint

/-- Whether a name in lower case ends in one of some extensions. -/
def hasExtension (exts : List (List Char)) (name : String) : Bool :=
  exts.any fun e => e.isSuffixOf (lower name.toList)

/-! ## Search -/

/-- Why a search fails. -/
inductive Failure where
  /-- A path cannot be used. -/
  | unusable (e : FileError) (path : String)
  /-- A number in a name is too long. -/
  | digits (e : TooManyDigits)

/-- What is said of a search that fails. -/
def Failure.message : Failure → String
  | .unusable e path => e.message path
  | .digits e => e.message

/-- The paths in a folder with one of some extensions. -/
def candidates (t : FileTree) (exts : List (List Char)) (recursive : Bool) (folder : String) :
    Except Failure (List String) :=
  if recursive then
    match t.search folder with
    | .error e => .error (.unusable e folder)
    | .ok visits => .ok (visits.flatMap fun v => (v.files.filter (hasExtension exts)).map (join v.path))
  else
    match t.list folder with
    | .error e => .error (.unusable e folder)
    | .ok names => .ok ((names.filter (hasExtension exts)).map (join folder))

/-- A name that is never taken: the program's own. -/
def ownName : String := "generador_diagramas3000.py"

/-- Whether a path is taken. -/
def takes (f : NameFilter) (path : String) : Except TooManyDigits Bool :=
  if name path = ownName then .ok false else f.accepts (name path)

/-- The paths that are taken. -/
def chosen (f : NameFilter) : List String → Except TooManyDigits (List String)
  | [] => .ok []
  | path :: rest =>
    match takes f path with
    | .error e => .error e
    | .ok b =>
      match chosen f rest with
      | .error e => .error e
      | .ok others => .ok (if b then path :: others else others)

/-! ## Order -/

/-- The number of a file. -/
def number? (path : String) : Option Nat :=
  match firstNumber (name path).toList with
  | .ok n => n
  | .error _ => none

/-- Paths by number if all have one, otherwise by path. -/
def ordered (paths : List String) : List String :=
  if paths.all fun p => (number? p).isSome then
    sortBy (fun a b => (number? a).getD 0 ≤ (number? b).getD 0) paths
  else sortBy textLe paths

/-- Files of one folder. -/
structure Group where
  /-- The path of the folder. -/
  folder : String
  /-- The paths of the files. -/
  files : List String
deriving Repr, DecidableEq

/-- Adds a file to the group of its folder; a new group goes behind the others. -/
def addToGroup (path : String) : List Group → List Group
  | [] => [⟨parent path, [path]⟩]
  | g :: rest =>
    if g.folder = parent path then { g with files := g.files ++ [path] } :: rest
    else g :: addToGroup path rest

/-- Files folder by folder, folders in order of their first file. -/
def groups (paths : List String) : List Group :=
  paths.foldl (fun gs path => addToGroup path gs) []

/-- The files that a run starts from. -/
def seeds (t : FileTree) (exts : List (List Char)) (recursive : Bool) (f : NameFilter)
    (folder : String) : Except Failure (List String) :=
  match candidates t exts recursive folder with
  | .error e => .error e
  | .ok paths =>
    match chosen f paths with
    | .error e => .error (.digits e)
    | .ok paths => .ok (ordered paths)

end CodeFlow.Selection
