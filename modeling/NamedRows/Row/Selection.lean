/-!
# Selections

The rows a selector comes to (`Selection`): one row, rows in some order and multiplicity, or a flag for every row. All
three can be read as positions (`Selection.positions`) and as a mask (`Selection.toMask`).
-/

namespace NamedRows

/-- Selected rows, as positions in the whole table. -/
inductive Selection
  /-- Exactly one row, from a selector that means one. -/
  | single (row : Nat)
  /-- Rows in order, with repetitions. -/
  | rows (positions : List Nat)
  /-- One flag a row. -/
  | mask (flags : List Bool)
  deriving DecidableEq, Repr

/-- The positions of the flags that are set, ascending. -/
def flagged (flags : List Bool) : List Nat :=
  flags.zipIdx.filterMap fun p => if p.1 then some p.2 else none

namespace Selection

/-- The row of a selection that means one. -/
def single? : Selection → Option Nat
  | .single row => some row
  | _ => none

/-- The selected positions in order. -/
def positions : Selection → List Nat
  | .single row => [row]
  | .rows ps => ps
  | .mask flags => flagged flags

/-- The selection as one flag for each of `size` rows; order and repetitions are lost. -/
def toMask (size : Nat) : Selection → List Bool
  | .mask flags => flags
  | s => (List.range size).map fun row => s.positions.contains row

/-- The number of selected rows, repetitions counted. -/
def count : Selection → Nat
  | .single _ => 1
  | .rows ps => ps.length
  | .mask flags => flags.count true

end Selection

end NamedRows
