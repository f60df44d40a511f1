import NamedRows.Row.Guarded
import NamedRows.Table.Read

/-!
# Reading tables with every access spelled out

What `Table.rows` and `Table.getAt` do, with the accesses that can trap (`Guarded`). Taking one row of a column has an
error of its own for a row that is not there; here that is a trap as well.
-/

namespace NamedRows.Guarded

/-- A new table of the rows at the given positions. -/
def takeRows (t : Table Column) (rows : List Nat) : Guarded (Table Column) := do
  return t.derived (← t.columns.mapM fun p => do return (p.1, ← take p.2 rows))

variable [Externals]

/-- The rows a selector means; a name that means nothing selects nothing. -/
def rows (t : Table Column) (selector : Selector) : Guarded (Table Column) := do
  let s ← select t.source selector false
  takeRows t s.positions

/-- A column at selected rows. -/
def pick (column : Column) (s : Selection) : Guarded (Reading Column) :=
  match s with
  | .single row =>
    match column.cell? row with
    | some c => return .cell c
    | none => trap (.index row column.size)
  | s => do return .column (← take column s.positions)

/-- A reading of whole columns at selected rows. -/
def restrict (s : Selection) : Reading Column → Guarded (Reading Column)
  | .cell c => return .cell c
  | .column c => pick c s
  | .table t => do return .table (← takeRows t s.positions)

/-- Reads columns at selected rows. -/
def getAt (t : Table Column) (columns : Columns) (selector : Selector) : Guarded (Reading Column) := do
  let whole ← plain (t.get columns)
  let s ← select t.source selector true
  restrict s whole

end NamedRows.Guarded
