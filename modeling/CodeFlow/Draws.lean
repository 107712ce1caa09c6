/-!
# `CodeFlow.Draws` — drawn numbers

Numbers that tell charts of equal names apart are drawn from a given row, which starts again from the
first when it is used up.
-/

namespace CodeFlow

/-- A row of numbers and how many were drawn. -/
structure Draws where
  /-- The row. -/
  values : List Int := [0]
  /-- How many were drawn. -/
  drawn : Nat := 0

/-- Draws a number. -/
def Draws.next (d : Draws) : Int × Draws :=
  (d.values.getD (d.drawn % d.values.length) 0, { d with drawn := d.drawn + 1 })

/-- What charting uses up: step numbers and drawn numbers. -/
structure Supply where
  /-- The number of the next step. -/
  number : Nat := 0
  /-- The numbers to draw. -/
  draws : Draws := {}

/-- Takes a number that is drawn. -/
def Supply.draw : StateM Supply Int := fun s =>
  let (value, draws) := s.draws.next
  (value, { s with draws := draws })

end CodeFlow
