import NamedRows.Decimal.Binary

/-!
# The shortest decimal of a double

The fewest decimal digits that read back as a given double (`shortest`). The reals that round to `m * 2 ^ e` form an
interval around it, with its ends included exactly when `m` is even (`Interval.of`). For one, two, up to seventeen
digits the two neighbours of the value on the decimal grid of that many digits are tested; the first grid with a hit
wins, of two hits the nearer one, and the upper one of two that are equally near.
-/

namespace NamedRows.Decimal

/-- A power of ten. -/
def pow10 (k : Nat) : Nat := Nat.pow 10 k

/-- A positive decimal fraction `0.d₁d₂… * 10 ^ point`, most significant digit first. -/
structure Digits where
  digits : List Char
  point : Int

/-- The reals that round to a positive double, and the double itself, over one denominator. -/
structure Interval where
  low : Nat
  value : Nat
  high : Nat
  denominator : Nat
  closed : Bool

/-- The interval of the reals nearest to a positive finite double. Below a power of two the neighbour is only half as
far away. -/
def Interval.of (x : Float) : Interval :=
  let m := significand x
  let up := pow2 (exponent x - 2).toNat
  let low := if fractionBits x = 0 ∧ 1 < exponentBits x then 4 * m - 1 else 4 * m - 2
  ⟨low * up, 4 * m * up, (4 * m + 2) * up, pow2 (2 - exponent x).toNat, m % 2 == 0⟩

/-- The exponent `k` with `10 ^ (k - 1) ≤ num / den < 10 ^ k`. -/
def magnitude (num den : Nat) : Int :=
  if den ≤ num then ((Nat.toDigits 10 (num / den)).length : Int)
  else 1 - ((Nat.toDigits 10 ((den + num - 1) / num - 1)).length : Int)

/-- Whether `d * 10 ^ g` lies in the interval. -/
def Interval.contains (i : Interval) (d : Nat) (g : Int) : Bool :=
  let p := d * pow10 g.toNat * i.denominator
  let q := pow10 (-g).toNat
  if i.closed then i.low * q ≤ p && p ≤ i.high * q else i.low * q < p && p < i.high * q

/-- The neighbour of the value on the grid of multiples of `10 ^ g` that lies in the interval, if there is one. -/
def Interval.onGrid (i : Interval) (g : Int) : Option Nat :=
  let unit := pow10 g.toNat * i.denominator
  let value := i.value * pow10 (-g).toNat
  let d := value / unit
  match i.contains d g, i.contains (d + 1) g with
  | true, true => some (if 2 * (value - d * unit) < unit then d else d + 1)
  | true, false => some d
  | false, true => some (d + 1)
  | false, false => none

/-- A decimal `d * 10 ^ g` without trailing zeros. -/
def Digits.of (d : Nat) (g : Int) : Digits :=
  let cs := Nat.toDigits 10 d
  ⟨(cs.reverse.dropWhile (· = '0')).reverse, g + cs.length⟩

/-- The shortest decimal that reads back as the positive finite double. -/
def shortest (x : Float) : Digits :=
  let i := Interval.of x
  let k := magnitude i.value i.denominator
  let grid (n : Nat) : Int := k - n
  match (List.range' 1 17).findSome? fun n => (i.onGrid (grid n)).map (Digits.of · (grid n)) with
  | some d => d
  | none => Digits.of (i.value * pow10 (-grid 17).toNat / (pow10 (grid 17).toNat * i.denominator)) (grid 17)

end NamedRows.Decimal
