import CodeFlow.Files.Path

/-!
# `CodeFlow.Resource` — where the program's own files are
-/

namespace CodeFlow.Resource

/-- The path of a file of the program: in the folder it was unpacked to, or else in the working
folder. -/
def path (unpacked : Option String) (file : String) : String :=
  Files.join (unpacked.getD Files.working) file

end CodeFlow.Resource
