import NamedRows.Expr.Eval
import NamedRows.Table.Basic

/-!
# Reading tables

Whole columns (`Table.get`), rows (`Table.rows`, `Table.select`, `Table.mask`) and cells (`Table.getAt`). A text that
names no column is read as an expression over the columns. Reading never changes a table; what is read in several
columns or rows is a table of its own with the same configuration.
-/

namespace NamedRows

/-- Which columns are asked for. -/
inductive Columns
  /-- One column, or an expression over columns. -/
  | one (text : String)
  /-- Several columns, as a table. -/
  | many (names : List String)
  deriving DecidableEq, Repr

/-- What is read from a table. -/
inductive Reading (κ : Type)
  | cell (c : Cell)
  | column (c : κ)
  | table (t : Table κ)

namespace Table

/-- The first name that is no column, or that repeats one before it. -/
def badName? {κ : Type} (t : Table κ) (repeated : String → Error.Construction) (seen : List String) :
    List String → Option Error
  | [] => none
  | name :: names =>
    if !t.contains name then some (.undefined name)
    else if seen.contains name then some (.construction (repeated name))
    else badName? t repeated (name :: seen) names

/-- The table of the named columns. -/
def cols {κ : Type} (t : Table κ) (names : List String) : Except Error (Table κ) :=
  match t.badName? .duplicateColumn [] names with
  | some e => .error e
  | none => .ok (t.derived (t.selected names))

variable [Externals]

/-- The column of a name, or else what the text comes to as an expression. -/
def computed (t : Table Column) (text : String) : Except Error Computed :=
  match t.column? text with
  | some c => .ok (.column c)
  | none => Expr.evaluate t.column? text

/-- Reads whole columns. -/
def get (t : Table Column) : Columns → Except Error (Reading Column)
  | .one text => do
    match ← t.computed text with
    | .cell c => return .cell c
    | .column c => return .column c
  | .many names => do return .table (← t.cols names)

/-- The rows a selector means; a name has to mean something. -/
def select (t : Table Column) (selector : Selector) : Except Error Selection := t.source.select selector true

/-- A column at selected rows: a cell for a selection of one row, else a column. -/
def pick (column : Column) (s : Selection) : Except Error (Reading Column) :=
  match s with
  | .single row =>
    match column.cell? row with
    | some c => .ok (.cell c)
    | none => .error (.outOfRange row .column)
  | s => .ok (.column (column.take s.positions))

/-- A reading of whole columns at selected rows. A value that is the same for all rows stays as it is. -/
def restrict (s : Selection) : Reading Column → Except Error (Reading Column)
  | .cell c => .ok (.cell c)
  | .column c => pick c s
  | .table t => .ok (.table (t.takeRows s.positions))

/-- Reads columns at selected rows. The columns are looked at first. -/
def getAt (t : Table Column) (columns : Columns) (selector : Selector) : Except Error (Reading Column) := do
  let whole ← t.get columns
  let s ← t.select selector
  restrict s whole

/-- The table of the selected rows; a name that means nothing selects nothing. -/
def rows (t : Table Column) (selector : Selector) : Except Error (Table Column) := do
  return t.takeRows (← t.source.select selector false).positions

/-- The selected rows as one flag a row. -/
def mask (t : Table Column) (selector : Selector) : Except Error (List Bool) := do
  return (← t.select selector).toMask t.rowCount

/-- The rows in which a condition holds. A condition that is the same for all rows selects all of them or none. -/
def matching (t : Table Column) (expression : String) : Except Error Selector := do
  match ← Expr.evaluate t.column? expression with
  | .column c => Selector.ofMaskColumn c
  | .cell (.bool b) => return .mask (List.replicate t.rowCount b)
  | .cell c => throw (.mismatch (.notCondition expression c.kind))

end Table

end NamedRows
