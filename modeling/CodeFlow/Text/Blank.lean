/-!
# `CodeFlow.Text.Blank` — blank characters, stripping and lines

A text is handled as the list of its characters (code points). This module says which characters
are blank, how a text is stripped of them at its ends, and how it is cut into lines.

## Contents
- `isBlank`, `stripStart`, `stripEnd`, `strip`.
- `isLineEnd`, `lines`: every line end closes a line, `\r\n` counts once, and a text that ends in a
  line end has no empty last line.
-/

namespace CodeFlow.Text

/-! ## Blanks -/

/-- The white space of Unicode, together with the four information separators. -/
def isBlank (c : Char) : Bool :=
  let n := c.toNat
  (9 ≤ n && n ≤ 13) || (28 ≤ n && n ≤ 32) || n == 0x85 || n == 0xA0 || n == 0x1680 ||
    (0x2000 ≤ n && n ≤ 0x200A) || n == 0x2028 || n == 0x2029 || n == 0x202F || n == 0x205F ||
    n == 0x3000

/-- Drops the longest final run of elements that satisfy `p`. -/
def dropEndWhile {α : Type} (p : α → Bool) (l : List α) : List α :=
  (l.reverse.dropWhile p).reverse

/-- The text without its leading blanks. -/
def stripStart (t : List Char) : List Char := t.dropWhile isBlank

/-- The text without its trailing blanks. -/
def stripEnd (t : List Char) : List Char := dropEndWhile isBlank t

/-- The text without the blanks at both ends. -/
def strip (t : List Char) : List Char := stripEnd (stripStart t)

/-! ## Lines -/

/-- The characters that end a line. -/
def isLineEnd (c : Char) : Bool :=
  let n := c.toNat
  (10 ≤ n && n ≤ 13) || (28 ≤ n && n ≤ 30) || n == 0x85 || n == 0x2028 || n == 0x2029

/-- Puts a character in front of the first of some pieces. -/
def consHead (c : Char) : List (List Char) → List (List Char)
  | [] => [[c]]
  | piece :: rest => (c :: piece) :: rest

/-- The lines of a text, without their ends. -/
def lines : List Char → List (List Char)
  | [] => []
  | '\r' :: '\n' :: rest => [] :: lines rest
  | c :: rest => if isLineEnd c then [] :: lines rest else consHead c (lines rest)

end CodeFlow.Text
