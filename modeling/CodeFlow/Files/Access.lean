import CodeFlow.Files.Error
import CodeFlow.Files.Tree
import CodeFlow.Text.Newline

/-!
# `CodeFlow.Files.Access` — using paths

A path is walked part by part, and each part but the last has to be a folder.

## Contents
- `walk`, `find`: where a path leads.
- `hasPath`, `isFolder`, `isFile`: what there is.
- `openForWriting`, `hindrance?`, `write`, `readText?`, `list`, `search`.
-/

namespace CodeFlow.Files

namespace FileTree

/-- Takes one part of a path from a location that there is. -/
def step (t : FileTree) (l : Location) (part : String) : Except FileError Location :=
  if !t.isFolderAt l then .error .notFolder
  else if part = "" || part = "." then .ok l
  else if part = ".." then .ok l.up
  else if 255 < part.utf8ByteSize then .error .tooLong
  else if (t.get? (l.child part)).isSome then .ok (l.child part)
  else .error .missing

/-- Takes parts of a path one after the other. -/
def walk (t : FileTree) : Location → List String → Except FileError Location
  | l, [] => .ok l
  | l, part :: rest =>
    match t.step l part with
    | .ok next => walk t next rest
    | .error e => .error e

/-- Where a route leads. -/
def follow (t : FileTree) (r : Route) : Except FileError Location := t.walk r.start r.steps

/-- Why a path cannot be used whatever there is. -/
def spellingError? (path : String) : Option FileError :=
  if path.toList.any (·.toNat == 0) then some .nullChar
  else if path.isEmpty then some .missing
  else if 4095 < path.utf8ByteSize then some .tooLong
  else none

/-- Where a path leads. -/
def find (t : FileTree) (path : String) : Except FileError Location :=
  match spellingError? path with
  | some e => .error e
  | none => t.follow (Route.ofText path)

/-- Whether a path leads somewhere. -/
def hasPath (t : FileTree) (path : String) : Bool := (t.find path).toOption.isSome

/-- Whether a path leads to a folder. -/
def isFolder (t : FileTree) (path : String) : Bool :=
  (t.find path).toOption.any t.isFolderAt

/-- Whether a path leads to a file. -/
def isFile (t : FileTree) (path : String) : Bool :=
  (t.find path).toOption.any fun l => !t.isFolderAt l

/-! ## Files -/

/-- The last part of a route that is not empty, and the parts before it. -/
def splitLast (steps : List String) : Option (List String × String) :=
  match steps.reverse.dropWhile (· == "") with
  | [] => none
  | last :: before => some (before.reverse, last)

/-- Where a file is written that is opened by a path: the folder has to be there, and at the path has to
be a file or nothing. -/
def openForWriting (t : FileTree) (path : String) : Except FileError t.Slot :=
  match spellingError? path with
  | some e => .error e
  | none =>
    let route := Route.ofText path
    match splitLast route.steps with
    | none => .error .isFolder
    | some (before, last) =>
      match t.walk route.start before with
      | .error e => .error e
      | .ok folder =>
        if t.isFolderAt folder && route.steps.getLast? = some "" then .error .isFolder
        else t.slotIn folder last

/-- What is said when there is no room. -/
def noSpace : String := "[Errno 28] No space left on device"

/-- What hinders writing to a place: a mishap, or once the file is open that nothing arrives on the full device. -/
def hindrance? (l : Location) (content : Content) (mishap : Option Mishap) : Option Mishap :=
  match mishap with
  | some (.refused reason) => some (.refused reason)
  | _ => if l = fullDevice ∧ content.bytes ≠ [] then some (.cut 0 noSpace) else mishap

/-- Writes a file by its path. What was there is lost once the file is open. -/
def write (t : FileTree) (path : String) (content : Content) (mishap : Option Mishap) :
    Except WriteError Unit × FileTree :=
  match t.openForWriting path with
  | .error e => (.error (.path e), t)
  | .ok s =>
    match hindrance? s.location content mishap with
    | none => (.ok (), t.put s (.file content))
    | some (.refused reason) => (.error (.storage reason), t)
    | some (.cut kept reason) => (.error (.storage reason), t.put s (.file (content.front kept)))

/-- The text of a file at a location, with one kind of line end. -/
def readTextAt? (t : FileTree) (l : Location) : Option (List Char) :=
  match t.get? l with
  | some (.file (.text s)) => some (Text.unifyNewlines s.toList)
  | _ => none

/-- The text of a file by its path. -/
def readText? (t : FileTree) (path : String) : Option (List Char) :=
  (t.find path).toOption.bind t.readTextAt?

/-! ## Folders -/

/-- The names in a folder by its path. -/
def list (t : FileTree) (path : String) : Except FileError (List String) :=
  match t.find path with
  | .error e => .error e
  | .ok l => if t.isFolderAt l then .ok (t.childNames l) else .error .notFolder

/-- The files in a folder, by name. -/
def fileNames (t : FileTree) (folder : Location) : List String :=
  (t.childNames folder).filter fun name => !t.isFolderAt (folder.child name)

/-- A folder that a search comes by: its path and the files in it. -/
structure Visit where
  /-- The path of the folder. -/
  path : String
  /-- The names of the files in it. -/
  files : List String
deriving Repr, DecidableEq

/-- Goes through a folder and all that lie in it, each before those inside. -/
def visits (t : FileTree) (path : String) (l : Location) : List Visit :=
  (t.foldersBelow l).map fun names =>
    ⟨names.foldl join path, t.fileNames (names.foldl Location.child l)⟩

/-- Goes through the folders below a path. Where there is no folder, nothing is found; a path that
cannot be spelled is refused. -/
def search (t : FileTree) (path : String) : Except FileError (List Visit) :=
  match t.find path with
  | .error .nullChar => .error .nullChar
  | .error _ => .ok []
  | .ok l => .ok (if t.isFolderAt l then t.visits path l else [])

end FileTree

end CodeFlow.Files
