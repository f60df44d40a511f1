import NamedRows.Column
import NamedRows.Text.Numeral
import Std.Data.TreeMap

/-!
# Directories of names

A directory lists, for the names in a key column, the rows each one labels in ascending order, the distinct names in
the order they first appear, and for every row the place of its name among these and which occurrence of it the row is
(`Directory`). It is built in one pass (`Directory.build`), never changed afterwards, and carries the version of the
column it was built from.
-/

namespace NamedRows

/-- The rows of every name in a key column. -/
structure Directory where
  /-- The distinct names in order of first appearance. -/
  names : Array String
  /-- The place of every name in `names`. -/
  slots : Std.TreeMap String Nat
  /-- The ascending rows of every name. -/
  rowsOf : Std.TreeMap String (Array Nat)
  /-- Of every row the place of its name in `names` and the number of earlier rows with that name. -/
  labels : Array (Nat × Nat)
  /-- The version of the key column this directory reflects. -/
  version : Nat

/-- The entry that `k` means among `count` entries: negative indices count from the end. -/
def entryIndex (k : Int64) (count : Nat) : Option Nat :=
  let i : Int := if k < 0 then count + k.toInt else k.toInt
  if 0 ≤ i ∧ i < count then some i.toNat else none

/-- The row `n` rows after `row`, as long as 64 bits hold it. -/
def shiftRow? (row : Nat) (n : Int64) : Option Int :=
  let p : Int := row + n.toInt
  if Text.Numeral.inRange p then some p else none

namespace Directory

/-- The directory of no rows. -/
def empty (version : Nat) : Directory := ⟨#[], ∅, ∅, #[], version⟩

/-- The directory with one more row at the end. -/
def push (d : Directory) (name : String) : Directory :=
  let slot := d.slots[name]?.getD d.names.size
  let earlier := d.rowsOf[name]?.getD #[]
  { d with
    names := if d.slots.contains name then d.names else d.names.push name
    slots := d.slots.insert name slot
    rowsOf := d.rowsOf.insert name (earlier.push d.labels.size)
    labels := d.labels.push (slot, earlier.size) }

/-- The directory of the rows with the given names. -/
def ofNames (names : List String) (version : Nat) : Directory := names.foldl push (empty version)

/-- The directory of a key column. -/
def build (column : Column) (version : Nat) : Directory := ofNames column.labels.toList version

/-- The number of rows. -/
def size (d : Directory) : Nat := d.labels.size

/-- Whether a name labels any row. -/
def contains (d : Directory) (name : String) : Bool := d.rowsOf.contains name

/-- The ascending rows of a name; none if it is absent. -/
def occurrences (d : Directory) (name : String) : Array Nat := d.rowsOf[name]?.getD #[]

/-- Whether a name labels more than one row. -/
def isRepeated (d : Directory) (name : String) : Bool := 1 < (d.occurrences name).size

/-- The row of an occurrence of a name; no occurrence asked for means the first. -/
def row (d : Directory) (name : String) (occurrence : Option Int64) : Except Error Nat :=
  match d.rowsOf[name]? with
  | none => .error (.undefined name)
  | some rows =>
    let k := occurrence.getD 0
    match (entryIndex k rows.size).bind fun i => rows[i]? with
    | some row => .ok row
    | none => .error (.outOfRange k.toInt (.occurrences name rows.size))

/-- The position an occurrence and a shift lead to, which may lie outside the table. -/
def position (d : Directory) (name : String) (occurrence : Option Int64) (shift : Int64) : Except Error Int := do
  let row ← d.row name occurrence
  match shiftRow? row shift with
  | some p => .ok p
  | none => .error (.outOfRange shift.toInt (.shiftFrom name))

/-- The name of a row and which occurrence of it the row is. -/
def label? (d : Directory) (row : Nat) : Option (String × Nat) := do
  let (slot, k) ← d.labels[row]?
  return (← d.names[slot]?, k)

end Directory

end NamedRows
