/-!
# `CodeFlow.Text.Table` — character properties as tables

A property of characters beyond ASCII is written down as a text of hexadecimal numbers. This module
reads such a text and looks characters up in the ranges it lists.
-/

namespace CodeFlow.Text.Table

/-- The value of a hexadecimal digit. -/
def hexValue? (c : Char) : Option Nat :=
  if '0' ≤ c ∧ c ≤ '9' then some (c.toNat - '0'.toNat)
  else if 'a' ≤ c ∧ c ≤ 'f' then some (c.toNat - 'a'.toNat + 10)
  else if 'A' ≤ c ∧ c ≤ 'F' then some (c.toNat - 'A'.toNat + 10)
  else none

/-- The value of digits in a base. -/
def valueIn (base : Nat) (digits : List Char) : Nat :=
  digits.foldl (fun n c => n * base + (hexValue? c).getD 0) 0

/-- `numbersFrom cur t` reads on with the number `cur` begun. -/
def numbersFrom : Option Nat → List Char → List Nat
  | none, [] => []
  | some n, [] => [n]
  | cur, c :: rest =>
    match hexValue? c, cur with
    | some d, _ => numbersFrom (some (cur.getD 0 * 16 + d)) rest
    | none, some n => n :: numbersFrom none rest
    | none, none => numbersFrom none rest

/-- The hexadecimal numbers of a text, whatever stands between them. -/
def numbers (t : String) : List Nat := numbersFrom none t.toList

/-- Consecutive numbers in pairs. -/
def pairs : List Nat → List (Nat × Nat)
  | a :: b :: rest => (a, b) :: pairs rest
  | _ => []

/-- The ranges of a table, each given by its first and its last code point. -/
def ranges (t : String) : Array (Nat × Nat) := (pairs (numbers t)).toArray

/-- Whether a code point lies in one of the ranges. -/
def holds (table : Array (Nat × Nat)) (n : Nat) : Bool :=
  table.any fun r => r.1 ≤ n && n ≤ r.2

end CodeFlow.Text.Table
