/-!
# `CodeFlow.Text.Digit` — decimal digits and the numbers they write

Every script's decimal digits count, ten in a row from a zero. A number may have at most 4300
digits.

## Contents
- `digitValue?`, `isDigit`, `decimalValue`.
- `firstNumber`: the number written by the first run of digits of a text.
- `readInt?`: a whole text read as an integer.
-/

namespace CodeFlow.Text

/-- The zeros of the decimal digits beyond ASCII; the digits 1 to 9 follow each of them. -/
def digitZeros : List Nat :=
   [0x660, 0x6F0, 0x7C0, 0x966, 0x9E6, 0xA66, 0xAE6, 0xB66, 0xBE6, 0xC66, 0xCE6, 0xD66, 0xDE6,
    0xE50, 0xED0, 0xF20, 0x1040, 0x1090, 0x17E0, 0x1810, 0x1946, 0x19D0, 0x1A80, 0x1A90, 0x1B50,
    0x1BB0, 0x1C40, 0x1C50, 0xA620, 0xA8D0, 0xA900, 0xA9D0, 0xA9F0, 0xAA50, 0xABF0, 0xFF10, 0x104A0,
    0x10D30, 0x11066, 0x110F0, 0x11136, 0x111D0, 0x112F0, 0x11450, 0x114D0, 0x11650, 0x116C0,
    0x11730, 0x118E0, 0x11950, 0x11C50, 0x11D50, 0x11DA0, 0x16A60, 0x16AC0, 0x16B50, 0x1D7CE,
    0x1D7D8, 0x1D7E2, 0x1D7EC, 0x1D7F6, 0x1E140, 0x1E2F0, 0x1E950, 0x1FBF0]

/-- The value of a decimal digit of any script. -/
def digitValue? (c : Char) : Option Nat :=
  let n := c.toNat
  if n < 128 then
    if 48 ≤ n ∧ n ≤ 57 then some (n - 48) else none
  else
    (digitZeros.find? fun z => z ≤ n && n ≤ z + 9).map (n - ·)

/-- Whether a character is a decimal digit of some script. -/
def isDigit (c : Char) : Bool := (digitValue? c).isSome

/-- The number that a row of digits writes; other characters count as zero. -/
def decimalValue (digits : List Char) : Nat :=
  digits.foldl (fun n c => n * 10 + (digitValue? c).getD 0) 0

/-- A number written with more digits than are accepted. -/
structure TooManyDigits where
  /-- How many digits were written. -/
  digits : Nat
deriving Repr, DecidableEq

/-- The most digits with which a number is read or printed. -/
def maxDigits : Nat := 4300

/-- What is reported for a number with too many digits. -/
def TooManyDigits.message (e : TooManyDigits) : String :=
  "Exceeds the limit (" ++ toString maxDigits ++
    " digits) for integer string conversion: value has " ++ toString e.digits ++
    " digits; use sys.set_int_max_str_digits() to increase the limit"

/-- The number that a row of digits writes, if it is not too long. -/
def readDigits (digits : List Char) : Except TooManyDigits Nat :=
  if digits.length > maxDigits then .error ⟨digits.length⟩ else .ok (decimalValue digits)

/-- The number written by the first run of digits of a text, if there is one. -/
def firstNumber (t : List Char) : Except TooManyDigits (Option Nat) :=
  match (t.dropWhile (!isDigit ·)).takeWhile isDigit with
  | [] => .ok none
  | digits => (readDigits digits).map some

/-! ## Integers -/

/-- The digits of a row in which single underscores may stand between digits. -/
def ungroup? : List Char → Option (List Char)
  | [] => none
  | [c] => if isDigit c then some [c] else none
  | c :: '_' :: rest => if isDigit c then (ungroup? rest).map (c :: ·) else none
  | c :: rest => if isDigit c then (ungroup? rest).map (c :: ·) else none

/-- A text without blanks at its ends as an integer: an optional sign and digits, with single
underscores allowed between them. -/
def readInt? (t : List Char) : Option Int :=
  let unsigned (digits : List Char) : Option Nat :=
    (ungroup? digits).bind fun ds => (readDigits ds).toOption
  match t with
  | '-' :: rest => (unsigned rest).map fun n => -(n : Int)
  | '+' :: rest => (unsigned rest).map Int.ofNat
  | _ => (unsigned t).map Int.ofNat

end CodeFlow.Text
