/-!
# `CodeFlow.Order` — sorting

Names are ordered by code points. Sorting is stable: entries of equal rank keep their order.

## Contents
- `insertBy`, `sortBy`.
- `charsLe`, `textLe`, `textsLe`: the order of texts, and of rows of texts by their first difference.
-/

namespace CodeFlow

/-- Puts an entry before the first one that it does not rank above. -/
def insertBy {α : Type} (le : α → α → Bool) (x : α) : List α → List α
  | [] => [x]
  | y :: ys => if le x y then x :: y :: ys else y :: insertBy le x ys

/-- Sorts entries; those of equal rank keep their order. -/
def sortBy {α : Type} (le : α → α → Bool) : List α → List α
  | [] => []
  | x :: xs => insertBy le x (sortBy le xs)

/-- Whether a text comes no later than another by code points. -/
def charsLe : List Char → List Char → Bool
  | [], _ => true
  | _ :: _, [] => false
  | a :: as, b :: bs => if a = b then charsLe as bs else a.toNat < b.toNat

/-- Whether a text comes no later than another. -/
def textLe (a b : String) : Bool := charsLe a.toList b.toList

/-- Whether a row of texts comes no later than another. -/
def textsLe : List String → List String → Bool
  | [], _ => true
  | _ :: _, [] => false
  | a :: as, b :: bs => if a = b then textsLe as bs else textLe a b

end CodeFlow
