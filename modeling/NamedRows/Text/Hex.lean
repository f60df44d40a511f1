/-!
# Hexadecimal numerals

Reading numbers in base sixteen, with letters of either case (`hexDigit?`, `hexNumber`).
-/

namespace NamedRows.Text

/-- The value of a hexadecimal digit. -/
def hexDigit? (c : Char) : Option Nat :=
  if '0' ≤ c ∧ c ≤ '9' then some (c.toNat - '0'.toNat)
  else if 'a' ≤ c ∧ c ≤ 'f' then some (c.toNat - 'a'.toNat + 10)
  else if 'A' ≤ c ∧ c ≤ 'F' then some (c.toNat - 'A'.toNat + 10)
  else none

/-- Whether a character is a hexadecimal digit. -/
def isHexDigit (c : Char) : Bool := (hexDigit? c).isSome

/-- The number written by hexadecimal digits, most significant first. -/
def hexNumber (digits : List Char) : Nat := digits.foldl (fun n c => n * 16 + (hexDigit? c).getD 0) 0

/-- The number written by a text that holds only hexadecimal digits. -/
def hexNumber? (cs : List Char) : Option Nat := if cs.all isHexDigit then some (hexNumber cs) else none

end NamedRows.Text
