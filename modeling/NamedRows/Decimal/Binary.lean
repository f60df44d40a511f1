/-!
# Doubles as binary fractions

A finite double is `m * 2 ^ e` with an integral significand (`significand`, `exponent`). Both are taken from the bits of
the double, so no rounding happens on the way.
-/

namespace NamedRows.Decimal

/-- A power of two. -/
def pow2 (k : Nat) : Nat := Nat.pow 2 k

/-- The eleven exponent bits of a double. -/
def exponentBits (x : Float) : Nat := (x.toBits.toNat >>> 52) % 2048

/-- The fifty-two fraction bits of a double. -/
def fractionBits (x : Float) : Nat := x.toBits.toNat % pow2 52

/-- The sign bit of a double; set for negative zero as well. -/
def signBit (x : Float) : Bool := x.toBits.toNat >>> 63 == 1

/-- The integral significand of a finite double. -/
def significand (x : Float) : Nat :=
  if exponentBits x = 0 then fractionBits x else pow2 52 + fractionBits x

/-- The exponent of two that goes with the significand of a finite double. -/
def exponent (x : Float) : Int :=
  if exponentBits x = 0 then -1074 else (exponentBits x : Int) - 1075

end NamedRows.Decimal
