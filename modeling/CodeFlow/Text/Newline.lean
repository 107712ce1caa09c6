/-!
# `CodeFlow.Text.Newline` — one kind of line end

Files and source texts may end their lines with `\n`, `\r\n` or `\r`; they are read with `\n`.
-/

namespace CodeFlow.Text

/-- Writes every line end as `\n`. -/
def unifyNewlines : List Char → List Char
  | [] => []
  | '\r' :: '\n' :: rest => '\n' :: unifyNewlines rest
  | c :: rest => (if c = '\r' then '\n' else c) :: unifyNewlines rest

end CodeFlow.Text
