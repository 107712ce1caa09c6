import CodeFlow.Text.Quoted

/-!
# `CodeFlow.Files.Error` — why a file cannot be used

Either its path is at fault, whatever is done there, or writing to it fails on the way.
-/

namespace CodeFlow.Files

/-- Why a path cannot be used. -/
inductive FileError where
  /-- There is nothing, or the path is empty. -/
  | missing
  /-- A part that should be a folder is a file. -/
  | notFolder
  /-- A folder was opened for writing, or the path ends in a slash. -/
  | isFolder
  /-- A part has more than 255 bytes, or the path more than 4095. -/
  | tooLong
  /-- The path holds the character with number zero. -/
  | nullChar
deriving Repr, DecidableEq

namespace FileError

/-- The number and the words of a cause; the last has none. -/
def words? : FileError → Option String
  | .missing => some "[Errno 2] No such file or directory"
  | .notFolder => some "[Errno 20] Not a directory"
  | .isFolder => some "[Errno 21] Is a directory"
  | .tooLong => some "[Errno 36] File name too long"
  | .nullChar => none

/-- What is said of a path that cannot be used. -/
def message (e : FileError) (path : String) : String :=
  match e.words? with
  | some words => words ++ ": " ++ Text.quoteString path
  | none => "embedded null byte"

end FileError

/-- What goes wrong with a file that is written by a good path. -/
inductive Mishap where
  /-- The file cannot be opened. -/
  | refused (reason : String)
  /-- The file is opened, which empties it, and only so many bytes arrive. -/
  | cut (kept : Nat) (reason : String)
deriving Repr, DecidableEq

/-- Why a file was not written. -/
inductive WriteError where
  /-- Its path cannot be used. -/
  | path (fault : FileError)
  /-- There was a mishap. -/
  | storage (reason : String)
deriving Repr, DecidableEq

/-- What is said of a file that was not written. -/
def WriteError.message (e : WriteError) (path : String) : String :=
  match e with
  | .path fault => fault.message path
  | .storage reason => reason

end CodeFlow.Files
