import CodeFlow.Decimal.Binary

/-!
# `CodeFlow.Decimal.Shortest` — the fewest digits that read back

A binary number is written with the fewest decimal digits that are rounded to it again, and among
those with the digits nearest to it. The candidates on a decimal grid are the two neighbours of the
number; an exact tie between them goes to the even one.

## Contents
- `Span`: a binary number with the ends of the interval of reals that are rounded to it.
- `shortest`: its digits and their decimal exponent.
- `Layout`, `Layout.write`: how the digits are laid out.
-/

namespace CodeFlow.Decimal

/-- A positive number as a fraction over `den`, with the ends of the interval that is rounded to it. -/
structure Span where
  /-- Numerator of the number. -/
  num : Nat
  /-- Numerator of the lower end. -/
  low : Nat
  /-- Numerator of the upper end. -/
  high : Nat
  /-- The common denominator. -/
  den : Nat
  /-- Whether the ends belong to the interval. -/
  closed : Bool

/-- The interval around `m * 2 ^ q`. Below a power of two the next number is only half as far. -/
def Span.ofBinary (m : Nat) (q : Int) : Span :=
  let (up, down) := scale 2 (q - 2)
  let below := if m = Nat.pow 2 52 ∧ -1074 < q then 4 * m - 1 else 4 * m - 2
  ⟨4 * m * up, below * up, (4 * m + 2) * up, down, m % 2 = 0⟩

namespace Span

/-- Whether `c * 10 ^ j` lies in the interval. -/
def contains (s : Span) (c : Nat) (j : Int) : Bool :=
  let (up, down) := scale 10 j
  let x := c * up * s.den
  if s.closed then s.low * down ≤ x && x ≤ s.high * down
  else s.low * down < x && x < s.high * down

/-- Whether `10 ^ k` is at most the number. -/
def reaches (s : Span) (k : Int) : Bool :=
  let (up, down) := scale 10 k
  up * s.den ≤ s.num * down

/-- The greatest `k` with `10 ^ k` at most the number. -/
def floorLog10 (s : Span) : Int :=
  let guess := (floorLog2 s.num s.den * 1233) / 4096
  if s.reaches (guess + 1) then guess + 1
  else if s.reaches guess then guess
  else guess - 1

/-- The neighbour of the number on the grid of multiples of `10 ^ j` that lies in the interval, the
nearer one if both do. -/
def onGrid? (s : Span) (j : Int) : Option Nat :=
  let (up, down) := scale 10 j
  let unit := up * s.den
  let c := s.num * down / unit
  let r := s.num * down % unit
  match s.contains c j, s.contains (c + 1) j with
  | true, true => some (if 2 * r < unit then c else if unit < 2 * r then c + 1 else c + c % 2)
  | true, false => some c
  | false, true => some (c + 1)
  | false, false => none

/-- Tries the grids with `n`, `n + 1`, … digits. -/
def search (s : Span) (k : Int) (n : Nat) : Nat → Nat × Int
  | 0 => (s.num / s.den, 0)
  | more + 1 =>
    let j := k + 1 - (n : Int)
    match s.onGrid? j with
    | some c => (c, j)
    | none => search s k (n + 1) more

end Span

/-- `trimZeros fuel c j` moves the final zeros of `c` into the exponent. -/
def trimZeros : Nat → Nat → Int → Nat × Int
  | 0, c, j => (c, j)
  | fuel + 1, c, j => if c ≠ 0 ∧ c % 10 = 0 then trimZeros fuel (c / 10) (j + 1) else (c, j)

/-- The fewest digits that read back as `m * 2 ^ q`, and their decimal exponent. -/
def shortest (m : Nat) (q : Int) : Nat × Int :=
  if m = 0 then (0, 0)
  else
    let s := Span.ofBinary m q
    let (c, j) := s.search s.floorLog10 1 20
    trimZeros 20 c j

/-! ## Layout -/

/-- How a number is laid out. -/
structure Layout where
  /-- The point may stand at most this far to the right of the first digit. -/
  maxPoint : Int
  /-- The point stands further to the right than this (negative: zeros follow it). -/
  minPoint : Int
  /-- What is added to a number without a fraction. -/
  wholeEnd : String
  /-- The text of infinity. -/
  infinity : String

/-- An exponent has a sign and at least two digits. -/
def exponentText (e : Int) : String :=
  let digits := toString e.natAbs
  (if e < 0 then "-" else "+") ++ (if e.natAbs < 10 then "0" ++ digits else digits)

/-- The text of digits with the point after the first `point` of them. -/
def Layout.place (f : Layout) (digits : List Char) (point : Int) : String :=
  let n : Int := digits.length
  if f.minPoint < point ∧ point ≤ f.maxPoint then
    if point ≤ 0 then
      "0." ++ String.ofList (List.replicate (-point).toNat '0' ++ digits)
    else if n ≤ point then
      String.ofList (digits ++ List.replicate (point - n).toNat '0') ++ f.wholeEnd
    else
      String.ofList (digits.take point.toNat) ++ "." ++ String.ofList (digits.drop point.toNat)
  else
    let fraction := if digits.length ≤ 1 then "" else "." ++ String.ofList (digits.drop 1)
    String.ofList (digits.take 1) ++ fraction ++ "e" ++ exponentText (point - 1)

/-- The text of a binary number. -/
def Layout.write (f : Layout) : Binary → String
  | .infinite => f.infinity
  | .finite m q =>
    let (c, j) := shortest m q
    let digits := (toString c).toList
    f.place digits (j + digits.length)

end CodeFlow.Decimal
