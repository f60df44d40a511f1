import NamedRows.Table.Read

/-!
# Writing tables

The ways to write a table (`Write`), and what each one comes to (`Table.plan`): a change of the table and an answer. A
write that fails changes nothing, except that a failing fill has touched its column. Whole columns have to fit the
number of rows, unless no other column is there to fit to.
-/

namespace NamedRows

/-- A way to write a table. -/
inductive Write
  /-- A whole column is replaced, or added at the end. -/
  | assign (name : String) (column : Column)
  /-- One value is written into every row of a column, which is added if it is not there. -/
  | broadcast (name : String) (value : Cell)
  | delete (name : String)
  /-- The columns are put in another order, which names each of them once. -/
  | reorder (names : List String)
  /-- A column is taken for writing and, if a value is given, filled with it. -/
  | fill (name : String) (value : Option Cell)
  deriving DecidableEq, Repr

/-- What a write answers. -/
inductive Written
  | done
  /-- There is no such column, and nothing was written. -/
  | absent
  /-- The column that was removed. -/
  | removed (column : Column)
  deriving DecidableEq, Repr

namespace Table

/-- What is wrong with a column that is to be put under a name. Other columns fix the number of rows. -/
def misfit? (t : Table Column) (name : String) (column : Column) : Option Error.Construction :=
  if (t.names.any fun other => other ≠ name) ∧ column.size ≠ t.rowCount then
    some (.wrongLength name column.size t.rowCount)
  else none

/-- What is wrong with an order of columns. -/
def badOrder? (t : Table Column) (names : List String) : Option Error :=
  match t.badName? .duplicateInOrder [] names with
  | some e => some e
  | none =>
    if names.length = t.columns.length then none
    else some (.construction (.incompleteOrder names.length t.columns.length))

/-- What a write comes to. -/
def plan (t : Table Column) : Write → Change Column × Except Error Written
  | .assign name column =>
    match t.misfit? name column with
    | some cause => (.keep, .error (.construction cause))
    | none => (.put name column, .ok .done)
  | .broadcast name value =>
    match t.column? name with
    | none => (.put name (Column.full value t.rowCount), .ok .done)
    | some column =>
      match column.fill value with
      | .ok filled => (.put name filled, .ok .done)
      | .error e => (.keep, .error e)
  | .delete name =>
    match t.column? name with
    | none => (.keep, .error (.undefined name))
    | some column => (.remove name, .ok (.removed column))
  | .reorder names =>
    match t.badOrder? names with
    | some e => (.keep, .error e)
    | none => (.order names, .ok .done)
  | .fill name value =>
    match t.column? name, value with
    | none, _ => (.keep, .ok .absent)
    | some _, none => (.touch name, .ok .done)
    | some column, some value =>
      match column.fill value with
      | .ok filled => (.put name filled, .ok .done)
      | .error e => (.touch name, .error e)

/-- The table after a write, whether it failed or not. -/
def write (t : Table Column) (w : Write) : Table Column := t.apply (t.plan w).1

end Table

end NamedRows
