import CodeFlow.Text.Printable
import CodeFlow.Text.Search

/-!
# `CodeFlow.Text.Quoted` — texts and bytes between quotes

A quoted text stands between single quotes, or between double quotes if it holds single ones and no
double ones. The quote, the backslash and what is not printable are escaped. Texts are given by their
code points, which may be surrogates.

## Contents
- `escapeWith`, `quote`: a quoted text.
- `quoteBytes`: quoted bytes.
- `quotePlain`: a text quoted with as few backslashes as possible.
-/

namespace CodeFlow.Text

/-- A number below sixteen as a hexadecimal digit. -/
def hexDigit (n : Nat) : Char := if n < 10 then Char.ofNat (48 + n) else Char.ofNat (87 + n)

/-- The last `width` hexadecimal digits of a number. -/
def hexDigits : Nat → Nat → List Char
  | 0, _ => []
  | width + 1, n => hexDigits width (n / 16) ++ [hexDigit (n % 16)]

/-- The character of a code point; surrogates have none and show as the replacement character. -/
def charOf (n : Nat) : Char :=
  if 0xD800 ≤ n ∧ n ≤ 0xDFFF then Char.ofNat 0xFFFD else Char.ofNat n

/-- The escape of a code point that is not printable. -/
def numericEscape (n : Nat) : List Char :=
  if n < 0x100 then '\\' :: 'x' :: hexDigits 2 n
  else if n < 0x10000 then '\\' :: 'u' :: hexDigits 4 n
  else '\\' :: 'U' :: hexDigits 8 n

/-- How a code point is written between quotes, where `shown` says what is written as it is. -/
def escapeWith (shown : Nat → Bool) (mark : Char) (n : Nat) : List Char :=
  if n = mark.toNat ∨ n = 92 then ['\\', Char.ofNat n]
  else if n = 9 then ['\\', 't']
  else if n = 10 then ['\\', 'n']
  else if n = 13 then ['\\', 'r']
  else if shown n then [charOf n]
  else numericEscape n

/-- The quotation mark for a text. -/
def markFor (t : List Nat) : Char := if t.contains 39 && !t.contains 34 then '"' else '\''

/-- A text between quotes. -/
def quote (t : List Nat) : String :=
  let mark := markFor t
  String.ofList (mark :: t.flatMap (escapeWith isPrintable mark) ++ [mark])

/-- A string between quotes. -/
def quoteString (s : String) : String := quote (s.toList.map (·.toNat))

/-- Bytes between quotes, with the letter that marks them. -/
def quoteBytes (t : List Nat) : String :=
  let mark := markFor t
  String.ofList ('b' :: mark :: t.flatMap (escapeWith (fun n => 32 ≤ n && n < 127) mark) ++ [mark])

/-! ## Few backslashes -/

/-- The quotation marks, in order of preference. -/
def allMarks : List (List Char) :=
  [['\''], ['"'], ['"', '"', '"'], ['\'', '\'', '\'']]

/-- A text between the first quotation mark that needs no escape in it. Line ends and tabs are written
as they are, line ends only between triple marks. What is not printable, and a mark that cannot be
avoided, is escaped. -/
def quotePlain (t : List Char) : List Char :=
  let shown (c : Char) : List Char :=
    if c = '\n' ∨ c = '\t' then [c]
    else if c = '\\' then ['\\', '\\']
    else if isPrintable c.toNat then [c]
    else numericEscape c.toNat
  let body := t.flatMap shown
  let marks := if body.contains '\n' then allMarks.filter (·.length = 3) else allMarks
  let marks := marks.filter fun m => !occurs m body
  let endsLike (m : List Char) : Bool := m.head? == body.getLast?
  match marks.filter (!endsLike ·) ++ marks.filter endsLike with
  | [] => (quote (t.map (·.toNat))).toList
  | m :: _ =>
    if endsLike m then m ++ body.dropLast ++ '\\' :: m.take 1 ++ m
    else m ++ body ++ m

end CodeFlow.Text
