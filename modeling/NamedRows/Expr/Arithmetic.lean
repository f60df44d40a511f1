import NamedRows.Decimal.Binary
import NamedRows.Expr.Basic
import NamedRows.Externals

/-!
# Arithmetic on doubles

What the operators and functions of expressions compute. The remainder takes the sign of the divisor (`rem`), rounding
sends halves to the even neighbour (`roundEven`), and the smaller and the larger of two numbers are NaN if one of them
is. The hypotenuse comes from outside (`Externals`).
-/

namespace NamedRows.Arithmetic

/-- A double that is not a number. -/
def nan : Float := 0.0 / 0.0

/-- What is left of `a` after taking away the multiple of `b` just below it. -/
def rem (a b : Float) : Float := a - b * (a / b).floor

/-- The nearest whole number, the even one of two that are equally near. From `2 ^ 52` on every double is whole; below,
adding and taking away `2 ^ 52` rounds in the last place. -/
def roundEven (x : Float) : Float :=
  let big : Float := 4503599627370496.0
  if x.abs < big then
    let r := (x.abs + big) - big
    if Decimal.signBit x then -r else r
  else x

/-- One with the sign of a number, and positive zero for both zeros. -/
def sign (x : Float) : Float :=
  if x.isNaN then nan else if x == 0.0 then 0.0 else if x < 0.0 then -1.0 else 1.0

def minimum (a b : Float) : Float := if a.isNaN || b.isNaN then nan else if b < a then b else a

def maximum (a b : Float) : Float := if a.isNaN || b.isNaN then nan else if a < b then b else a

/-- The function of one argument. -/
def apply1 : Function1 → Float → Float
  | .sqrt => Float.sqrt
  | .abs => Float.abs
  | .exp => Float.exp
  | .log => Float.log
  | .log10 => Float.log10
  | .log2 => Float.log2
  | .sin => Float.sin
  | .cos => Float.cos
  | .tan => Float.tan
  | .arcsin => Float.asin
  | .arccos => Float.acos
  | .arctan => Float.atan
  | .sinh => Float.sinh
  | .cosh => Float.cosh
  | .tanh => Float.tanh
  | .floor => Float.floor
  | .ceil => Float.ceil
  | .round => roundEven
  | .sign => sign

/-- The function of two arguments. -/
def apply2 [Externals] : Function2 → Float → Float → Float
  | .arctan2 => Float.atan2
  | .hypot => Externals.hypot
  | .minimum => minimum
  | .maximum => maximum
  | .power => Float.pow

end NamedRows.Arithmetic
