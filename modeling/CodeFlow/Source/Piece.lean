import CodeFlow.Source.Expr
import CodeFlow.Text.Quoted

/-!
# `CodeFlow.Source.Piece` — printed source code in pieces

Source code is printed as a list of pieces: fixed text, constants and formatted texts. From the pieces
come the printed text, whether it can be printed at all, and whether its fields can be written without
backslashes.

## Contents
- `Piece`, `render`.
- `isPrintable`: pieces that have a text.
- `renderPlain`, `isPlain`: the same with as few backslashes as possible.
-/

namespace CodeFlow.Source

/-- A piece of printed source code. -/
inductive Piece where
  /-- Fixed text. -/
  | text (s : String)
  /-- A constant. -/
  | constant (c : Constant)
  /-- A formatted text. -/
  | formatted (parts : List Piece)
  /-- Characters of a formatted text. -/
  | chars (codes : List Nat)
  /-- A field of a formatted text. -/
  | field (value : List Piece) (conversion : Option Conversion) (hasSpec : Bool)
      (spec : List Piece)
  /-- A statement that has no text. -/
  | unprintable

namespace Piece

/-- The characters of a formatted text, braces doubled. -/
def doubleBraces (codes : List Nat) : List Char :=
  codes.flatMap fun n =>
    if n = 0x7B then ['\x7b', '\x7b'] else if n = 0x7D then ['\x7d', '\x7d'] else [Text.charOf n]

/-- The letter of a conversion, with its mark. -/
def conversionText : Option Conversion → String
  | none => ""
  | some .plain => "!s"
  | some .quoted => "!r"
  | some .ascii => "!a"

/-- The quotes between which a formatted text is put, in order of preference: only triple ones if it
goes over several lines. -/
def formatMarks (t : List Char) : List (List Char) :=
  let single := [['\''], ['"'], ['"', '"', '"'], ['\'', '\'', '\'']]
  let triple := [['\'', '\'', '\''], ['"', '"', '"']]
  if t.contains '\n' || t.contains '\r' then triple else single

/-- A formatted text between the first quotes that do not occur in it. -/
def quoteFormatted (t : List Char) : String :=
  match (formatMarks t).find? fun m => !Text.occurs m t with
  | some m => String.ofList (m ++ t ++ m)
  | none => Text.quote (t.map (·.toNat))

/-- A field from its value and its format. A value that begins with a brace is set off. -/
def fieldText (value : String) (conversion : Option Conversion) (spec : Option String) : String :=
  "\x7b" ++ (if value.toList.head? = some '\x7b' then " " else "") ++ value ++
    conversionText conversion ++ (spec.map (":" ++ ·)).getD "" ++ "\x7d"

mutual

/-- The text of a piece. -/
def render : Piece → String
  | .text s => s
  | .constant c => c.print
  | .formatted parts => "f" ++ quoteFormatted (renderAll parts).toList
  | .chars codes => String.ofList (doubleBraces codes)
  | .field value conversion hasSpec spec =>
    fieldText (renderAll value) conversion (if hasSpec then some (renderAll spec) else none)
  | .unprintable => ""

/-- The text of pieces. -/
def renderAll : List Piece → String
  | [] => ""
  | p :: rest => render p ++ renderAll rest

end

mutual

/-- Whether a piece has a text. -/
def isPrintable : Piece → Bool
  | .constant c => c.isPrintable
  | .formatted parts => arePrintable parts
  | .field value _ _ spec => arePrintable value && arePrintable spec
  | .unprintable => false
  | .text _ | .chars _ => true

/-- Whether all pieces have a text. -/
def arePrintable : List Piece → Bool
  | [] => true
  | p :: rest => isPrintable p && arePrintable rest

end

/-- The text of pieces, if they have one. -/
def print? (ps : List Piece) : Option String :=
  if arePrintable ps then some (renderAll ps) else none

/-! ## Fields without backslashes -/

mutual

/-- The text of a piece, texts in it quoted with as few backslashes as possible. -/
def renderPlain : Piece → List Char
  | .text s => s.toList
  | .constant (.text codes _) => Text.quotePlain (codes.map Text.charOf)
  | .constant c => c.print.toList
  | .formatted parts => 'f' :: Text.quotePlain (renderAllPlain parts)
  | .chars codes => doubleBraces codes
  | .field value conversion hasSpec spec =>
    (fieldText (String.ofList (renderAllPlain value)) conversion
      (if hasSpec then some (String.ofList (renderAllPlain spec)) else none)).toList
  | .unprintable => []

/-- The text of pieces, texts in them quoted with as few backslashes as possible. -/
def renderAllPlain : List Piece → List Char
  | [] => []
  | p :: rest => renderPlain p ++ renderAllPlain rest

end

mutual

/-- Whether the values of all fields of a piece can be written without a backslash, and its integers
within the digit limit. -/
def isPlain : Piece → Bool
  | .constant c => c.isPrintable
  | .formatted parts => arePlain parts
  | .field value _ _ spec =>
    !(renderAllPlain value).contains '\\' && arePlain value && arePlain spec
  | .text _ | .chars _ | .unprintable => true

/-- Whether the values of all fields of pieces can be written without a backslash. -/
def arePlain : List Piece → Bool
  | [] => true
  | p :: rest => isPlain p && arePlain rest

end

end Piece

end CodeFlow.Source
