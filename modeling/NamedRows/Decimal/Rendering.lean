import NamedRows.Decimal.Shortest

/-!
# Decimal text of doubles

Two ways to write the shortest decimal of a double. `plain` is always positional and writes whole numbers without a
point. `precise` keeps at least one digit after the point, and turns to an exponent for magnitudes below `10 ^ -4` and
from `10 ^ 16` on.
-/

namespace NamedRows.Decimal

/-- Positional text with at least `places` digits after the point (none or one). -/
def Digits.positional (d : Digits) (places : Nat) : List Char :=
  let n : Int := d.digits.length
  if d.point ≤ 0 then '0' :: '.' :: List.replicate (-d.point).toNat '0' ++ d.digits
  else if n ≤ d.point then
    d.digits ++ List.replicate (d.point - n).toNat '0' ++ (if places = 0 then [] else ['.', '0'])
  else d.digits.take d.point.toNat ++ '.' :: d.digits.drop d.point.toNat

/-- One digit, the others after a point, and the exponent of ten. -/
def Digits.scientific (d : Digits) : List Char :=
  let tail := d.digits.drop 1
  d.digits.take 1 ++ (if tail = [] then [] else '.' :: tail) ++ 'e' :: (toString (d.point - 1)).toList

/-- The text of a double, given how its positive magnitude and zero are written. -/
def signed (zero : String) (magnitude : Float → List Char) (x : Float) : String :=
  if x.isNaN then "NaN"
  else
    let sign := if signBit x then "-" else ""
    if x.isInf then sign ++ "inf"
    else if significand x = 0 then sign ++ zero
    else sign ++ String.ofList (magnitude x)

/-- Positional text: the fewest digits that read back, and no point in whole numbers. -/
def plain (x : Float) : String := signed "0" (fun x => (shortest x).positional 0) x

/-- Text that shows a double as such: a digit after the point, or an exponent far from one. -/
def precise (x : Float) : String :=
  signed "0.0" (fun x =>
    let d := shortest x
    if x.abs < 1e-4 || 1e16 ≤ x.abs then d.scientific else d.positional 1) x

end NamedRows.Decimal
