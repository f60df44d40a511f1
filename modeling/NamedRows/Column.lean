import NamedRows.Error

/-!
# Columns

A column is a sequence of cells of one kind (`Column`). It can be read cell by cell (`Column.cell?`), gathered at chosen
rows (`Column.take`), overwritten with one value (`Column.fill`), and read as numbers or as row names.
-/

namespace NamedRows

/-- A sequence of cells of one kind. -/
inductive Column
  | float (cells : Array Float)
  | int (cells : Array Int64)
  | text (cells : Array String)
  | bool (cells : Array Bool)
  deriving DecidableEq, Repr

/-- The entries of an array at the given positions, in their order and multiplicity. Positions beyond the end give
nothing. -/
def gather {α : Type} (cells : Array α) (rows : List Nat) : Array α :=
  (rows.filterMap fun row => cells[row]?).toArray

/-- Entrywise agreement of two arrays of equal size. -/
def agree {α : Type} (same : α → α → Bool) (a b : Array α) : Bool :=
  a.size = b.size && (a.zip b).all fun p => same p.1 p.2

namespace Column

/-- The column of `size` copies of a cell. -/
def full (value : Cell) (size : Nat) : Column :=
  match value with
  | .float x => .float (Array.replicate size x)
  | .int n => .int (Array.replicate size n)
  | .text s => .text (Array.replicate size s)
  | .bool b => .bool (Array.replicate size b)

def size : Column → Nat
  | .float cells => cells.size
  | .int cells => cells.size
  | .text cells => cells.size
  | .bool cells => cells.size

def kind : Column → Kind
  | .float _ => .float
  | .int _ => .int
  | .text _ => .text
  | .bool _ => .bool

/-- The cell in a row, if the column is that long. -/
def cell? (column : Column) (row : Nat) : Option Cell :=
  match column with
  | .float cells => cells[row]?.map .float
  | .int cells => cells[row]?.map .int
  | .text cells => cells[row]?.map .text
  | .bool cells => cells[row]?.map .bool

/-- The cells as numbers; a text column has none. -/
def floats? : Column → Option (Array Float)
  | .float cells => some cells
  | .int cells => some (cells.map floatOfInt)
  | .bool cells => some (cells.map floatOfBool)
  | .text _ => none

/-- The rows at the given positions, in order; repeated positions repeat the cell. -/
def take (column : Column) (rows : List Nat) : Column :=
  match column with
  | .float cells => .float (gather cells rows)
  | .int cells => .int (gather cells rows)
  | .text cells => .text (gather cells rows)
  | .bool cells => .bool (gather cells rows)

/-- The column with every cell overwritten by one value. An integer may be written into a float column; any other change
of kind is refused. -/
def fill (column : Column) (value : Cell) : Except Error Column :=
  match column, value with
  | .float cells, .float x => .ok (.float (Array.replicate cells.size x))
  | .float cells, .int n => .ok (.float (Array.replicate cells.size (floatOfInt n)))
  | .int cells, .int n => .ok (.int (Array.replicate cells.size n))
  | .text cells, .text s => .ok (.text (Array.replicate cells.size s))
  | .bool cells, .bool b => .ok (.bool (Array.replicate cells.size b))
  | column, value => .error (.mismatch (.broadcast value.kind column.kind))

/-- The row names a column gives: its texts, or the plain text of its cells. -/
def labels : Column → Array String
  | .text cells => cells
  | .float cells => cells.map fun x => (Cell.float x).plain
  | .int cells => cells.map fun n => (Cell.int n).plain
  | .bool cells => cells.map fun b => (Cell.bool b).plain

/-- Equality of columns of one kind, cell by cell; doubles are equal as numbers. -/
def same : Column → Column → Bool
  | .float a, .float b => agree (· == ·) a b
  | .int a, .int b => agree (· == ·) a b
  | .text a, .text b => agree (· == ·) a b
  | .bool a, .bool b => agree (· == ·) a b
  | _, _ => false

@[simp] theorem size_full (value : Cell) (n : Nat) : (full value n).size = n := by
  cases value <;> simp [full, size]

@[simp] theorem kind_take (column : Column) (rows : List Nat) : (column.take rows).kind = column.kind := by
  cases column <;> rfl

@[simp] theorem size_labels (column : Column) : column.labels.size = column.size := by
  cases column <;> simp [labels, size]

end Column

end NamedRows
