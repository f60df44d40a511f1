import NamedRows.Decimal.Rendering
import NamedRows.Text.Quoted

/-!
# Cells

The value in one cell of a table: a double, a 64-bit integer, a text or a truth value (`Cell`), its kind (`Kind`), how
cells compare (`Cell.compare?`) and how they are written (`Cell.plain`, `Cell.describe`).
-/

namespace NamedRows

/-- The four kinds of cells. -/
inductive Kind
  | float | int | text | bool
  deriving DecidableEq, Repr

/-- The word for a kind in messages. -/
def Kind.name : Kind → String
  | .float => "float"
  | .int => "int"
  | .text => "text"
  | .bool => "bool"

/-- The value in one cell. -/
inductive Cell
  | float (x : Float)
  | int (n : Int64)
  | text (s : String)
  | bool (b : Bool)
  deriving DecidableEq, Repr

/-- The order of two doubles; a NaN has no place in it. -/
def compareFloat? (x y : Float) : Option Ordering :=
  if x < y then some .lt else if x == y then some .eq else if y < x then some .gt else none

/-- An integer as the nearest double, ties going to the even significand. -/
def floatOfInt (n : Int64) : Float := Float.ofInt n.toInt

/-- A truth value as a number. -/
def floatOfBool (b : Bool) : Float := if b then 1.0 else 0.0

namespace Cell

def kind : Cell → Kind
  | .float _ => .float
  | .int _ => .int
  | .text _ => .text
  | .bool _ => .bool

/-- The number a cell stands for; texts stand for none. -/
def toFloat? : Cell → Option Float
  | .float x => some x
  | .int n => some (floatOfInt n)
  | .bool b => some (floatOfBool b)
  | .text _ => none

/-- The order of two cells. Texts compare by character codes, two integers exactly, other numbers as doubles; a text and
a number do not compare, and a NaN compares with nothing. -/
def compare? : Cell → Cell → Option Ordering
  | .text a, .text b => some (compare a b)
  | .int a, .int b => some (compare a b)
  | .text _, _ => none
  | _, .text _ => none
  | a, b => do compareFloat? (← a.toFloat?) (← b.toFloat?)

/-- Equality of cells of one kind. Doubles are equal as numbers: a NaN is not equal to itself, and the two zeros are
equal. -/
def same : Cell → Cell → Bool
  | .float a, .float b => a == b
  | .int a, .int b => a = b
  | .text a, .text b => a = b
  | .bool a, .bool b => a = b
  | _, _ => false

/-- The plain text of a cell. -/
def plain : Cell → String
  | .float x => Decimal.plain x
  | .int n => toString n.toInt
  | .text s => s
  | .bool b => toString b

/-- The text of a cell that shows its kind as well. -/
def describe : Cell → String
  | .float x => s!"Float({Decimal.precise x})"
  | .int n => s!"Int({n.toInt})"
  | .text s => s!"Text({Text.quote s})"
  | .bool b => s!"Bool({b})"

end Cell

end NamedRows
