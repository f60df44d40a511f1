import NamedRows.Text.Numeral

/-!
# Reading decimal literals

A decimal literal is a run of digits with at most one point, at least one digit around it, and an optional exponent
(`read?`). Its value is the nearest double, the even one of two that are equally near; beyond the largest double it is
infinity (`toFloat?`).
-/

namespace NamedRows.Decimal

/-- A decimal `mantissa * 10 ^ exponent`. -/
structure Literal where
  mantissa : Nat
  exponent : Int

/-- The exponent clause of a literal: nothing, or `e` with an optional sign and at least one digit. -/
def readExponent? : List Char → Option Int
  | [] => some 0
  | c :: rest => if c = 'e' ∨ c = 'E' then Text.Numeral.toInt? rest else none

/-- The decimal written by a literal without sign. -/
def read? (cs : List Char) : Option Literal :=
  let whole := cs.takeWhile Char.isDigit
  let rest := cs.dropWhile Char.isDigit
  let fraction := match rest with
    | '.' :: r => r.takeWhile Char.isDigit
    | _ => []
  let after := match rest with
    | '.' :: r => r.dropWhile Char.isDigit
    | _ => rest
  do
    let mantissa ← Text.Numeral.toNat? (whole ++ fraction)
    let e ← readExponent? after
    return ⟨mantissa, e - fraction.length⟩

/-- The double nearest to a decimal. Decimals above `10 ^ 310` or below `10 ^ -330` need no arithmetic. -/
def Literal.toFloat (l : Literal) : Float :=
  let magnitude := l.exponent + (Nat.toDigits 10 l.mantissa).length
  if l.mantissa = 0 then 0.0
  else if 310 < magnitude then Float.ofBits 0x7FF0000000000000
  else if magnitude < -330 then 0.0
  else Float.ofScientific l.mantissa (l.exponent < 0) l.exponent.natAbs

/-- The double a literal stands for, if it is one. -/
def toFloat? (cs : List Char) : Option Float := (read? cs).map Literal.toFloat

end NamedRows.Decimal
