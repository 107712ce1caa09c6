import CodeFlow.Text.Digit
import CodeFlow.Text.Lower
import CodeFlow.Text.Search

/-!
# `CodeFlow.NameFilter` — which files are charted

A file is chosen by its name: the name contains a given text, in any case, and its number lies in a
given range. Once a range is given, a name without a number is refused.
-/

namespace CodeFlow

/-- A condition on file names. -/
structure NameFilter where
  /-- What the name has to contain, in any case. -/
  base : String := "ejercicio"
  /-- The least number accepted. -/
  first : Option Int := none
  /-- The greatest number accepted. -/
  last : Option Int := none

namespace NameFilter

open Text

/-- Whether a number lies in the range of a filter. -/
def inRange (f : NameFilter) (n : Int) : Bool :=
  f.first.all (· ≤ n) && f.last.all (n ≤ ·)

/-- Whether a file name is accepted. The number is read only if the text was found. -/
def accepts (f : NameFilter) (name : String) : Except TooManyDigits Bool :=
  if occurs (lower f.base.toList) (lower name.toList) then
    (firstNumber name.toList).map fun
      | some n => f.inRange n
      | none => f.first.isNone && f.last.isNone
  else .ok false

end NameFilter

end CodeFlow
