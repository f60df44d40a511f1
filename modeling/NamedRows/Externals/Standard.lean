import NamedRows.Externals
import NamedRows.Pattern.Grammar

/-!
# The functions of a program

The functions from outside that a program runs with (`Externals.standard`). A pattern is an expression of
`NamedRows.Pattern` that is searched for in a text. The hypotenuse is rounded as a library does that has no wider
numbers to work with: it estimates the error of the rounded root and takes it away (`Arithmetic.rootOfSquares`).
-/

namespace NamedRows

namespace Arithmetic

/-- The root of the sum of two squares, where `b ≤ a` and the squares neither overflow nor vanish. -/
def rootOfSquares (a b : Float) : Float :=
  let h := (a * a + b * b).sqrt
  -- What `h * h` is too large by, from the one of two differences that loses fewer digits.
  let excess :=
    if h ≤ 2.0 * b then
      let d := h - b
      a * (2.0 * d - a) + (d - 2.0 * (a - b)) * d
    else
      let d := h - a
      2.0 * d * (a - 2.0 * b) + ((4.0 * d - b) * b + d * d)
  h - excess / (2.0 * h)

/-- The root of the sum of two squares. An infinite side wins over one that is not a number, a side too small to count
is only added, and large and small sides are scaled. -/
def hypot (x y : Float) : Float :=
  if x.isInf || y.isInf then 1.0 / 0.0
  else if x.isNaN || y.isNaN then 0.0 / 0.0
  else
    let (a, b) := if x.abs < y.abs then (y.abs, x.abs) else (x.abs, y.abs)
    let unit := Float.scaleB 1.0 (-600)
    if b ≤ a * Float.scaleB 1.0 (-54) then a + b
    else if Float.scaleB 1.0 511 < a then rootOfSquares (a * unit) (b * unit) / unit
    else if b < Float.scaleB 1.0 (-459) then rootOfSquares (a / unit) (b / unit) * unit
    else rootOfSquares a b

end Arithmetic

/-- The functions that a program runs with. -/
instance Externals.standard : Externals where
  pattern? pattern := (Pattern.read? pattern.toList).map fun regex text => regex.search text.toList
  hypot := Arithmetic.hypot

end NamedRows
