import NamedRows.Table.Operation

/-!
# Runs of operations

Operations on one table, one after another (`Table.run`), and what is left of a table and of answers when some of their
details are left out (`Forgetting`). A kept directory is always left out: it is there to save work, and no answer but
the table itself shows it.
-/

namespace NamedRows

/-- The details to leave out, beside kept directories. -/
structure Forgetting where
  /-- The number of changes of the key column. -/
  version : Bool := false
  /-- Whether events are reported. -/
  reports : Bool := false
  deriving DecidableEq, Repr

/-- The directory as of the first version. -/
def Directory.unstamped (d : Directory) : Directory := { d with version := 0 }

def Directory.forget (f : Forgetting) (d : Directory) : Directory := if f.version then d.unstamped else d

/-- The table without the details that are left out. -/
def Table.forget {κ : Type} (f : Forgetting) (t : Table κ) : Table κ where
  columns := t.columns
  config := { t.config with reports := t.config.reports && !f.reports }
  version := if f.version then 0 else t.version

def Reading.forget {κ : Type} (f : Forgetting) : Reading κ → Reading κ
  | .table t => .table (t.forget f)
  | r => r

/-- The answer without the details that are left out. -/
def Answer.forget (f : Forgetting) : Answer → Answer
  | .reading r => .reading (r.forget f)
  | .directory d => .directory (d.forget f)
  | a => a

namespace Table

variable [Externals]

/-- The answers to operations that are performed one after another, the table they leave behind, and the lines they
write. -/
def run (t : Table Column) (least : Log.Severity) :
    List Operation → List (Except Error Answer) × Table Column × List Log.Line
  | [] => ([], t, [])
  | op :: ops =>
    let (answer, next, lines) := t.perform least op
    let (answers, last, more) := next.run least ops
    (answer :: answers, last, lines ++ more)

/-- The answers of a run without the details that are left out. -/
def answers (t : Table Column) (f : Forgetting) (least : Log.Severity) (ops : List Operation) :
    List (Except Error Answer) :=
  (t.run least ops).1.map fun a => a.map (Answer.forget f)

end Table

end NamedRows
