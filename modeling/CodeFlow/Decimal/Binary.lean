/-!
# `CodeFlow.Decimal.Binary` — the binary number nearest to a decimal

Non-negative binary floating-point numbers with 53 bits of precision are pairs of a mantissa and a
binary exponent. A decimal is rounded to the nearest of them, a tie to the one with the even mantissa.
Everything is exact arithmetic on natural numbers.

## Contents
- `Binary`: a mantissa and an exponent, or infinity.
- `roundQuotient`: a quotient rounded to the nearest integer.
- `Binary.ofDecimal`.
-/

namespace CodeFlow.Decimal

/-- A non-negative binary number: `mantissa * 2 ^ exponent`, or infinity. -/
inductive Binary where
  | finite (mantissa : Nat) (exponent : Int)
  | infinite
deriving Repr, DecidableEq

/-- Whether a number is zero. -/
def Binary.isZero : Binary → Bool
  | .finite mantissa _ => mantissa == 0
  | .infinite => false

/-- The integer nearest to `num / den`; a tie goes to the even one. -/
def roundQuotient (num den : Nat) : Nat :=
  let q := num / den
  let r := num % den
  if 2 * r < den then q
  else if den < 2 * r then q + 1
  else if q % 2 = 0 then q else q + 1

/-- `scale x e` is the pair of factors by which numerator and denominator grow when a number is
multiplied by `x ^ e`. -/
def scale (x : Nat) (e : Int) : Nat × Nat := (Nat.pow x e.toNat, Nat.pow x (-e).toNat)

/-- The greatest `e` with `2 ^ e ≤ num / den`. -/
def floorLog2 (num den : Nat) : Int :=
  let e : Int := (Nat.log2 num : Int) - Nat.log2 den
  let (up, down) := scale 2 e
  if den * up ≤ num * down then e else e - 1

/-- The binary number nearest to `num / den`, where both are positive. -/
def Binary.ofQuotient (num den : Nat) : Binary :=
  let q := max (floorLog2 num den - 52) (-1074)
  let (up, down) := scale 2 q
  let m := roundQuotient (num * down) (den * up)
  let (m, q) := if m = Nat.pow 2 53 then (Nat.pow 2 52, q + 1) else (m, q)
  if 971 < q then .infinite else .finite m q

/-- The binary number nearest to `digits * 10 ^ e`. Decimals far outside the range of binary numbers
are recognised by their number of digits. -/
def Binary.ofDecimal (digits : Nat) (e : Int) : Binary :=
  let size : Int := Nat.log2 digits
  if digits = 0 then .finite 0 0
  else if 1100 < e + size / 4 then .infinite
  else if e + size < -1100 then .finite 0 0
  else
    let (up, down) := scale 10 e
    .ofQuotient (digits * up) down

end CodeFlow.Decimal
