import NamedRows.Error

/-!
# Positional slices

The positions of a slice `[start:stop:step]` over a number of rows (`slice`). Negative bounds count from the end, bounds
beyond the rows move to the nearest end, and a negative step walks backwards. The positions are those of a progression:
from the first one in steps of `step` for as long as the stop is not reached.
-/

namespace NamedRows

/-- A bound of a slice over `size` rows, moved between `least` and `most`. -/
def sliceBound (size : Nat) (least most : Int) (bound : Int64) : Int :=
  let b := if bound < 0 then bound.toInt + size else bound.toInt
  max least (min b most)

/-- How many steps of a positive width fit before a distance is used up. -/
def stepsWithin (distance width : Int) : Nat := ((distance + width - 1) / width).toNat

/-- The positions from `first` on in steps of `step`, `count` of them. -/
def progression (first step : Int) (count : Nat) : List Nat :=
  (List.range count).map fun (k : Nat) => (first + k * step).toNat

/-- The positions of a slice over `size` rows. A step of zero is refused. -/
def slice (size : Nat) (start stop step : Option Int64) : Except Error (List Nat) :=
  let width := (step.getD 1).toInt
  if width = 0 then .error (.malformed "0" .zeroStep)
  else if 0 < width then
    let first := (start.map (sliceBound size 0 size)).getD 0
    let last := (stop.map (sliceBound size 0 size)).getD size
    .ok (progression first width (stepsWithin (last - first) width))
  else
    let first := (start.map (sliceBound size (-1) (size - 1))).getD (size - 1)
    let last := (stop.map (sliceBound size (-1) (size - 1))).getD (-1)
    .ok (progression first width (stepsWithin (first - last) (-width)))

end NamedRows
