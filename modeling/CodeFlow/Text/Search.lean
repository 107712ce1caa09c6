import CodeFlow.Text.Blank

/-!
# `CodeFlow.Text.Search` — finding, splitting and removing pieces of a text

All searches go from left to right and take occurrences that do not overlap.
-/

namespace CodeFlow.Text

/-- Whether `piece` occurs in a text. -/
def occurs (piece : List Char) : List Char → Bool
  | [] => piece.isEmpty
  | c :: rest => piece.isPrefixOf (c :: rest) || occurs piece rest

/-- `splitFrom piece skip t` passes over `skip` characters and then cuts `t` at every occurrence of
`piece`. -/
def splitFrom (piece : List Char) : Nat → List Char → List (List Char)
  | _, [] => [[]]
  | skip + 1, _ :: rest => splitFrom piece skip rest
  | 0, c :: rest =>
    if piece.isPrefixOf (c :: rest) then [] :: splitFrom piece (piece.length - 1) rest
    else consHead c (splitFrom piece 0 rest)

/-- The parts of a text between the occurrences of a non-empty `piece`: one more part than there are
occurrences. -/
def splitOn (piece : List Char) (t : List Char) : List (List Char) := splitFrom piece 0 t

/-- `replaceFrom piece new skip t` passes over `skip` characters and then puts `new` for every
occurrence of `piece`. -/
def replaceFrom (piece new : List Char) : Nat → List Char → List Char
  | _, [] => []
  | skip + 1, _ :: rest => replaceFrom piece new skip rest
  | 0, c :: rest =>
    if piece.isPrefixOf (c :: rest) then new ++ replaceFrom piece new (piece.length - 1) rest
    else c :: replaceFrom piece new 0 rest

/-- Puts `new` in place of every occurrence of a non-empty `piece`. -/
def replace (piece new : List Char) (t : List Char) : List Char := replaceFrom piece new 0 t

/-- The parts of a text between the characters `sep`. -/
def splitOnChar (sep : Char) : List Char → List (List Char)
  | [] => [[]]
  | c :: rest => if c == sep then [] :: splitOnChar sep rest else consHead c (splitOnChar sep rest)

/-- Joins pieces with a separator between them. -/
def join (sep : List Char) : List (List Char) → List Char
  | [] => []
  | [piece] => piece
  | piece :: rest => piece ++ sep ++ join sep rest

/-- Joins strings with a separator between them. -/
def joinStrings (sep : String) : List String → String
  | [] => ""
  | [piece] => piece
  | piece :: rest => piece ++ sep ++ joinStrings sep rest

end CodeFlow.Text
