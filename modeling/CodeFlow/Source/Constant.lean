import CodeFlow.Decimal.Shortest
import CodeFlow.Text.Digit
import CodeFlow.Text.Quoted

/-!
# `CodeFlow.Source.Constant` — constants of source code

## Contents
- `Constant`: what a literal denotes.
- `Constant.text`: a constant as it is printed.
- `Constant.isPrintable`: integers beyond the digit limit have no text.
-/

namespace CodeFlow.Source

/-- The value of a literal. -/
inductive Constant where
  | none
  | false
  | true
  | ellipsis
  | int (n : Nat)
  | float (x : Decimal.Binary)
  | imaginary (x : Decimal.Binary)
  /-- A text, by its code points; `marked` if its literal was marked with `u`. -/
  | text (codes : List Nat) (marked : Bool)
  | bytes (codes : List Nat)
deriving Repr, DecidableEq

namespace Constant

/-- Floating-point numbers are written positionally between 10⁻⁴ and 10¹⁶, with a fraction in any
case; infinity is written as a decimal that is too large. -/
def floatLayout : Decimal.Layout := ⟨16, -4, ".0", "1e309"⟩

/-- Imaginary numbers are written like floating-point numbers, but whole ones without a fraction. -/
def imaginaryLayout : Decimal.Layout := ⟨16, -4, "", "1e309"⟩

/-- Whether a constant can be printed. -/
def isPrintable : Constant → Bool
  | .int n => n < Nat.pow 10 Text.maxDigits
  | _ => Bool.true

/-- A constant as it is printed. -/
def print : Constant → String
  | .none => "None"
  | .false => "False"
  | .true => "True"
  | .ellipsis => "..."
  | .int n => toString n
  | .float x => floatLayout.write x
  | .imaginary x => imaginaryLayout.write x ++ "j"
  | .text codes marked => (if marked then "u" else "") ++ Text.quote codes
  | .bytes codes => Text.quoteBytes codes

/-- Whether a constant is a whole number; truth values count as such. -/
def isWhole : Constant → Bool
  | .int _ | .true | .false => Bool.true
  | _ => Bool.false

end Constant

end CodeFlow.Source
