import CodeFlow.Text.Word

/-!
# `CodeFlow.Ident` — texts as identifiers of a diagram

The identifiers of a DOT document consist of ASCII letters, digits and underscores. Every other
character of a text is replaced by an underscore, so the identifier is as long as the text; the empty
text has an identifier of its own.
-/

namespace CodeFlow.Ident

open Text

/-- The identifier of the empty text. -/
def null : String := "id_null"

/-- Whether a character may stand in an identifier. -/
def isIdentChar (c : Char) : Bool := isAsciiAlnum c || c == '_'

/-- The character that stands in an identifier for a given one. -/
def sanitizeChar (c : Char) : Char := if isIdentChar c then c else '_'

/-- The identifier of a text. -/
def sanitize (text : String) : String :=
  if text.toList.isEmpty then null else String.ofList (text.toList.map sanitizeChar)

/-- The identifier of a text that may be missing. -/
def sanitizeOption (text : Option String) : String := (text.map sanitize).getD null

/-- The identifier of `name` under a prefix; an empty prefix counts as none. -/
def qualify (pre name : String) : String :=
  sanitize (if pre.toList.isEmpty then name else pre ++ "_" ++ name)

end CodeFlow.Ident
