import CodeFlow.Source.Constant
import CodeFlow.Text.Table

/-!
# `CodeFlow.Source.Number` — number literals

Integers in four bases, decimals with a fraction or an exponent, and imaginary numbers. Single
underscores may stand between digits. A number ends where no name could go on, except that some
keywords may follow it directly.

## Contents
- `digitRun`: digits with underscores between them.
- `endsNumber`: what may follow a number.
- `readNumber`: a literal and the text after it.
-/

namespace CodeFlow.Source.Number

open Text

/-- Whether a character could go on a name. -/
def goesOn (c : Char) : Bool :=
  ('a' ≤ c && c ≤ 'z') || ('A' ≤ c && c ≤ 'Z') || ('0' ≤ c && c ≤ '9') || c == '_' ||
    128 ≤ c.toNat

/-- The digits at the begin of a text, without the underscores between them, and what follows. -/
def digitRun (isDigit : Char → Bool) : List Char → Option (List Char × List Char)
  | [] => some ([], [])
  | c :: rest =>
    if isDigit c then (digitRun isDigit rest).map fun (ds, after) => (c :: ds, after)
    else if c = '_' then
      match rest with
      | [] => none
      | d :: _ => if isDigit d then digitRun isDigit rest else none
    else some ([], c :: rest)

/-- The words that may follow a number without a blank. -/
def followers : List String := ["and", "else", "for", "if", "in", "is", "or", "not"]

/-- Whether a number may end before a text. -/
def endsNumber (rest : List Char) : Bool :=
  match rest with
  | [] => true
  | c :: _ => !goesOn c || followers.any fun w => w.toList.isPrefixOf rest

/-- Whether a character is a digit of a base. -/
def isDigitIn (base : Nat) (c : Char) : Bool := (Table.hexValue? c).any (· < base)

/-- An integer whose base was given by a letter. -/
def readInBase (base : Nat) (t : List Char) : Option (Constant × List Char) := do
  let (digits, rest) ← digitRun (isDigitIn base) t
  if digits.isEmpty || !endsNumber rest then none
  else some (.int (Table.valueIn base digits), rest)

/-- An exponent at the begin of a text. None: the text goes on with something that is neither an
exponent nor a word that may follow a number. -/
def readExponent (t : List Char) : Option (Option Int × List Char) :=
  match t with
  | c :: rest =>
    if c = 'e' ∨ c = 'E' then
      let digits (sign : Int) (ds : List Char) : Option (Option Int × List Char) := do
        let (ds, after) ← digitRun (isDigitIn 10) ds
        if ds.isEmpty then none else some (some (sign * Table.valueIn 10 ds), after)
      match rest with
      | '+' :: d :: ds => if isDigitIn 10 d then digits 1 (d :: ds) else none
      | '-' :: d :: ds => if isDigitIn 10 d then digits (-1) (d :: ds) else none
      | d :: ds =>
        if isDigitIn 10 d then digits 1 (d :: ds)
        else if endsNumber t then some (none, t) else none
      | [] => none
    else some (none, t)
  | [] => some (none, t)

/-- Reads on after the whole digits of a decimal; `exact` if the literal may be an integer. -/
def readDecimal (whole fraction : List Char) (exact : Bool) (t : List Char) :
    Option (Constant × List Char) := do
  let (exponent, rest) ← readExponent t
  let value := Decimal.Binary.ofDecimal (Table.valueIn 10 (whole ++ fraction))
    (exponent.getD 0 - fraction.length)
  match rest with
  | 'j' :: after => if endsNumber after then some (.imaginary value, after) else none
  | 'J' :: after => if endsNumber after then some (.imaginary value, after) else none
  | _ =>
    if !endsNumber rest then none
    else if exact && exponent.isNone then
      let n := Table.valueIn 10 whole
      if whole.length > maxDigits || (whole.head? == some '0' && n != 0) then none
      else some (.int n, rest)
    else some (.float value, rest)

/-- The digits after a point, if there are any. -/
def readFraction (t : List Char) : Option (List Char × List Char) :=
  match t with
  | d :: _ => if isDigitIn 10 d then digitRun (isDigitIn 10) t else some ([], t)
  | [] => some ([], [])

/-- A number literal at the begin of a text, and what follows it. -/
def readNumber (t : List Char) : Option (Constant × List Char) :=
  match t with
  | '0' :: 'x' :: rest | '0' :: 'X' :: rest => readInBase 16 rest
  | '0' :: 'o' :: rest | '0' :: 'O' :: rest => readInBase 8 rest
  | '0' :: 'b' :: rest | '0' :: 'B' :: rest => readInBase 2 rest
  | '.' :: rest => do
    let (fraction, rest) ← readFraction rest
    readDecimal [] fraction false rest
  | _ => do
    let (whole, rest) ← digitRun (isDigitIn 10) t
    match rest with
    | '.' :: rest => do
      let (fraction, rest) ← readFraction rest
      readDecimal whole fraction false rest
    | _ => readDecimal whole [] true rest

end CodeFlow.Source.Number
