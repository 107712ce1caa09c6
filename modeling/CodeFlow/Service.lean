import CodeFlow.Files.Tree

/-!
# `CodeFlow.Service` — the rendering service

Diagrams are posted to a service. Its replies are a given row, which starts again from the first when it
is used up.
-/

namespace CodeFlow

open Files

/-- A posted request. -/
structure Request where
  /-- The address. -/
  url : String
  /-- The text posted. -/
  body : String
  /-- How many seconds are waited. -/
  timeout : Nat
  /-- Names and values of the headers, ordered by name. -/
  headers : List (String × String)
deriving Repr, DecidableEq

/-- What comes back. -/
inductive Reply where
  /-- An answer with its status. -/
  | response (status : Int) (content : Content)
  /-- The call failed, with a text that says why. -/
  | failure (reason : String)
deriving DecidableEq

/-- The replies of the service and how many were given. -/
structure Service where
  /-- The row of replies. -/
  replies : List Reply := [.response 200 (.text "PDF")]
  /-- How many were given. -/
  given : Nat := 0

/-- Takes the next reply. -/
def Service.next (s : Service) : Reply × Service :=
  (s.replies.getD (s.given % s.replies.length) (.failure ""), { s with given := s.given + 1 })

end CodeFlow
