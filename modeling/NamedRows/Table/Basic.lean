import NamedRows.Config
import NamedRows.Row.Resolve

/-!
# Tables

A table is a list of named columns of one length, with a configuration, a version that counts the changes of its key
column, and perhaps a directory of that column kept from an earlier look-up (`Table`). What a column is does not matter
for most of the structure, so tables are parametric in it: `Table Column` holds the cells themselves, and a table of
handles says where they are stored.

`Table.create` checks names and lengths once. After that a table changes by one of a few steps (`Change`,
`Table.apply`): every step that touches the key column gives the table a new version and drops the kept directory.
-/

namespace NamedRows

/-- Named columns in order. -/
structure Table (κ : Type) where
  columns : List (String × κ)
  config : Config
  /-- The number of changes of the key column. -/
  version : Nat := 0
  /-- The directory of the key column, once it has been built. -/
  cached : Option Directory := none

/-- A step by which a table changes. -/
inductive Change (κ : Type)
  /-- Nothing changes. -/
  | keep
  /-- A directory is kept for later look-ups. -/
  | cache (d : Directory)
  /-- A column is replaced, or added at the end. -/
  | put (name : String) (column : κ)
  /-- A column may have been looked at for writing. -/
  | touch (name : String)
  | remove (name : String)
  | order (names : List String)

/-- A change with its columns replaced by others. -/
def Change.map {κ μ : Type} (f : κ → μ) : Change κ → Change μ
  | keep => keep
  | cache d => cache d
  | put name column => put name (f column)
  | touch name => touch name
  | remove name => remove name
  | order names => order names

namespace Table

variable {κ μ : Type}

/-- The same table with its columns replaced by others. -/
def map (f : κ → μ) (t : Table κ) : Table μ :=
  { columns := t.columns.map fun p => (p.1, f p.2), config := t.config, version := t.version, cached := t.cached }

/-- The names of the columns in order. -/
def names (t : Table κ) : List String := t.columns.map Prod.fst

def column? (t : Table κ) (name : String) : Option κ := t.columns.lookup name

def contains (t : Table κ) (name : String) : Bool := t.names.contains name

/-- Whether a name is that of the key column. -/
def isKey (t : Table κ) (name : String) : Bool := name = t.config.key

/-- A new table of other columns with the same configuration. -/
def derived (t : Table κ) (columns : List (String × μ)) : Table μ := { columns, config := t.config }

/-- The named columns of a table in the order asked for. The key column comes first if it was not asked for. -/
def selected (t : Table κ) (names : List String) : List (String × κ) :=
  let key := if names.contains t.config.key then [] else [t.config.key]
  (key ++ names).filterMap fun name => (t.column? name).map fun c => (name, c)

/-- The table after a change of the column `name`, as far as versions and directories go. -/
def stamp (t : Table κ) (name : String) : Table κ :=
  if t.isKey name then { t with version := t.version + 1, cached := none } else t

/-- The columns after one of them is replaced or added. -/
def placed (columns : List (String × κ)) (name : String) (column : κ) : List (String × κ) :=
  if (columns.map Prod.fst).contains name then columns.map fun p => if p.1 = name then (name, column) else p
  else columns ++ [(name, column)]

/-- The table after a change. -/
def apply (t : Table κ) : Change κ → Table κ
  | .keep => t
  | .cache d => { t with cached := some d }
  | .put name column => ({ t with columns := placed t.columns name column } : Table κ).stamp name
  | .touch name => t.stamp name
  | .remove name => ({ t with columns := t.columns.filter fun p => p.1 ≠ name } : Table κ).stamp name
  | .order names => { t with columns := names.filterMap fun name => (t.column? name).map fun c => (name, c) }

end Table

/-- The first name that repeats one before it, given the names already seen. -/
def firstRepeat? (seen : List String) : List String → Option String
  | [] => none
  | name :: names => if seen.contains name then some name else firstRepeat? (name :: seen) names

namespace Table

/-- What is wrong with a list of columns: a repeated name, or else a length that differs from the first one's. -/
def fault? (columns : List (String × Column)) : Option Error.Construction :=
  match firstRepeat? [] (columns.map Prod.fst) with
  | some name => some (.duplicateColumn name)
  | none =>
    match columns with
    | [] => none
    | (first, c) :: rest =>
      (rest.find? fun p => p.2.size ≠ c.size).map fun p => .unequalLengths first c.size p.1 p.2.size

/-- A table of the given columns. -/
def create (columns : List (String × Column)) (config : Config) : Except Error (Table Column) :=
  match fault? columns with
  | some cause => .error (.construction cause)
  | none => .ok { columns, config }

/-- The number of rows. -/
def rowCount (t : Table Column) : Nat :=
  match t.columns with
  | [] => 0
  | (_, c) :: _ => c.size

/-- The directory of the key column: the one kept, or one built now. -/
def directory (t : Table Column) : Except Error Directory :=
  match t.cached with
  | some d => .ok d
  | none =>
    match t.column? t.config.key with
    | some c => .ok (Directory.build c t.version)
    | none => .error (.undefined t.config.key)

/-- The table as something to select rows from. -/
def source (t : Table Column) : Source where
  rowCount := t.rowCount
  key := t.config.key
  directory := t.directory
  column? := t.column?
  overrun := t.config.overrun

/-- A new table of the rows at the given positions. -/
def takeRows (t : Table Column) (rows : List Nat) : Table Column :=
  t.derived (t.columns.map fun p => (p.1, p.2.take rows))

end Table

end NamedRows
