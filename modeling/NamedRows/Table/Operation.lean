import NamedRows.Log.Event
import NamedRows.Table.Write

/-!
# Operations on tables

Everything that can be done with one table is an operation: a question (`Query`) or a write. An operation has an answer
(`Table.answer`), a change of the table (`Table.change`) and the log lines it writes (`Table.lines`);
`Table.perform` puts the three together.

A question changes a table only in that the directory of names may be kept for the next one. Answers do not depend on
what is logged. A line is written if the configuration asks for reports and the severity is not below the least one.
-/

namespace NamedRows

/-- A question to a table. -/
inductive Query
  | get (columns : Columns)
  | getAt (columns : Columns) (selector : Selector)
  | rows (selector : Selector)
  | cols (names : List String)
  | mask (selector : Selector)
  | select (selector : Selector)
  /-- Selecting rows without a report of failures, under a policy for range ends if one is given. -/
  | resolve (selector : Selector) (strict : Bool) (overrun : Option Overrun)
  | column (name : String)
  | contains (name : String)
  | isRepeated (name : String)
  /-- The row of an occurrence of a name. -/
  | row (name : String) (occurrence : Option Int64)
  | directory
  | matching (expression : String)

/-- What can be done with a table. -/
inductive Operation
  | query (q : Query)
  | write (w : Write)

/-- What an operation answers. -/
inductive Answer
  | reading (r : Reading Column)
  | selection (s : Selection)
  | flags (flags : List Bool)
  | column (c : Option Column)
  | flag (b : Bool)
  | row (n : Nat)
  | directory (d : Directory)
  | selector (s : Selector)
  | written (w : Written)

namespace Table

variable [Externals]

/-- The answer to a question. -/
def ask (t : Table Column) : Query → Except Error Answer
  | .get columns => (t.get columns).map .reading
  | .getAt columns selector => (t.getAt columns selector).map .reading
  | .rows selector => (t.rows selector).map fun s => .reading (.table s)
  | .cols names => (t.cols names).map fun s => .reading (.table s)
  | .mask selector => (t.mask selector).map .flags
  | .select selector => (t.select selector).map .selection
  | .resolve selector strict overrun =>
    let source := { t.source with overrun := overrun.getD t.config.overrun }
    (source.select selector strict).map .selection
  | .column name => .ok (.column (t.column? name))
  | .contains name => .ok (.flag (t.contains name))
  | .isRepeated name => t.directory.map fun d => .flag (d.isRepeated name)
  | .row name occurrence => do return .row (← (← t.directory).row name occurrence)
  | .directory => t.directory.map .directory
  | .matching expression => (t.matching expression).map .selector

/-- The answer to an operation. -/
def answer (t : Table Column) : Operation → Except Error Answer
  | .query q => t.ask q
  | .write w => (t.plan w).2.map .written

/-- Whether answering a question looks at the directory of the table. -/
def consults (t : Table Column) : Query → Bool
  | .getAt columns selector => (t.get columns).isOk && selector.consultsDirectory
  | .rows selector | .mask selector | .select selector | .resolve selector _ _ => selector.consultsDirectory
  | .isRepeated _ | .row _ _ | .directory => true
  | _ => false

/-- The directory that a question builds, if it looks at one and none is kept. -/
def built? (t : Table Column) (q : Query) : Option Directory :=
  if t.consults q ∧ t.cached.isNone then t.directory.toOption else none

/-- The change an operation makes. -/
def change (t : Table Column) : Operation → Change Column
  | .query q =>
    match t.built? q with
    | some d => .cache d
    | none => .keep
  | .write w => (t.plan w).1

/-- The line for an event, if it is written. -/
def report (t : Table Column) (least : Log.Severity) (e : Log.Event) (fields : List (String × String)) :
    List Log.Line :=
  if t.config.reports ∧ least ≤ e.severity then [e.line fields] else []

/-- The line for a table that has just been made. -/
def reportCreated (t : Table Column) (least : Log.Severity) : List Log.Line :=
  t.report least .tableCreated [("columns", toString t.columns.length), ("rows", toString t.rowCount)]

/-- The line for a directory that has just been built. -/
def reportBuilt (t : Table Column) (least : Log.Severity) (d : Directory) : List Log.Line :=
  t.report least .directoryBuilt
    [("distinct", toString d.names.size), ("rows", toString d.size), ("version", toString d.version)]

/-- The line for a selector that could not be resolved. -/
def reportRejected {α : Type} (t : Table Column) (least : Log.Severity) (selector : Selector) :
    Except Error α → List Log.Line
  | .ok _ => []
  | .error e =>
    t.report least .selectorRejected
      [("code", e.family.code), ("reason", e.message), ("selector", selector.describe)]

/-- The line for the rows of a question that could not be resolved. Nothing is reported when the columns asked for are
at fault. -/
def rejection (t : Table Column) (least : Log.Severity) : Query → List Log.Line
  | .getAt columns selector =>
    if (t.get columns).isOk then t.reportRejected least selector (t.select selector) else []
  | .rows selector => t.reportRejected least selector (t.source.select selector false)
  | .mask selector | .select selector => t.reportRejected least selector (t.select selector)
  | _ => []

/-- The line for a write that was done. -/
def reportWrite (t : Table Column) (least : Log.Severity) : Write → List Log.Line
  | .assign name _ => t.report least .columnReplaced [("column", name)]
  | .broadcast name value => t.report least .columnBroadcast [("column", name), ("value", value.plain)]
  | .delete name => t.report least .columnDeleted [("column", name)]
  | .reorder names => t.report least .columnOrderChanged [("order", String.intercalate "," names)]
  | .fill _ _ => []

/-- The lines an operation writes. -/
def lines (t : Table Column) (least : Log.Severity) : Operation → List Log.Line
  | .query q =>
    (match t.built? q with
      | some d => t.reportBuilt least d
      | none => []) ++ t.rejection least q
  | .write w => if (t.plan w).2.isOk then t.reportWrite least w else []

/-- The answer to an operation, the table after it, and the lines it writes. -/
def perform (t : Table Column) (least : Log.Severity) (op : Operation) :
    Except Error Answer × Table Column × List Log.Line :=
  (t.answer op, t.apply (t.change op), t.lines least op)

end Table

end NamedRows
