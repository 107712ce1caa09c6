import CodeFlow.Text.Search

/-!
# `CodeFlow.Label` — texts as labels of a diagram

A label is written between double quotes in a DOT document. Any text is made into one: quotes and
backslashes are escaped, blank lines go, long lines and long texts are cut, and characters beyond
ASCII are shown as question marks. A text that draws a picture is replaced by a fixed label.

## Contents
- `isPicture`, `picture`.
- `shorten`: a text cut to a given width, with dots in place of what is missing.
- `pieces`: the lines of a label under a limit on their total length.
- `escape`: the label of a text.
-/

namespace CodeFlow.Label

open Text

/-- The mark that stands for text left out. -/
def ellipsis : List Char := ['.', '.', '.']

/-- Whether a text draws a picture: it shades, or it has sixteen spaces in a row. -/
def isPicture (t : List Char) : Bool :=
  t.contains '░' || t.contains '█' || occurs (List.replicate 16 ' ') t

/-- The label of a picture. -/
def picture : String := "[ Contenido Visual / ASCII Art ]"

/-- A text of more than `max` characters is cut to `keep` and dots. -/
def shorten (max keep : Nat) (t : List Char) : List Char :=
  if t.length > max then t.take keep ++ ellipsis else t

/-- How a character is written inside double quotes. Carriage returns are left out. -/
def escapeChar (c : Char) : List Char :=
  if c = '\\' then ['\\', '\\'] else if c = '"' then ['\\', '"'] else if c = '\r' then [] else [c]

/-- The characters of a label are ASCII. -/
def toAscii (c : Char) : Char := if c.toNat < 128 then c else '?'

/-- One line of a label: at most sixty characters. -/
def piece (line : List Char) : List Char := (shorten 60 57 line).map toAscii

/-- The lines of a label. Blank lines are passed over; the line with which the total length passes the
limit is the last one, and dots follow it. `used` is the length of the lines before. -/
def pieces (limit : Int) (used : Nat) : List (List Char) → List (List Char)
  | [] => []
  | line :: rest =>
    let line := strip line
    if line.isEmpty then pieces limit used rest
    else
      let p := piece line
      let used := used + p.length
      if (used : Int) > limit then [p, ellipsis] else p :: pieces limit used rest

/-- The characters of the label of a text that draws no picture. -/
def escapeChars (limit : Int) (t : List Char) : List Char :=
  join ['\\', 'n'] (pieces limit 0 (splitOnChar '\n' ((shorten 300 297 t).flatMap escapeChar)))

/-- The limit that applies where no other is given. -/
def defaultLimit : Int := 120

/-- The label of a text. -/
def escape (text : String) (limit : Int) : String :=
  let t := text.toList
  if t.isEmpty then ""
  else if isPicture t then picture
  else String.ofList (escapeChars limit t)

/-- The label of a text that may be missing. -/
def escapeOption (text : Option String) (limit : Int) : String :=
  (text.map (escape · limit)).getD ""

end CodeFlow.Label
