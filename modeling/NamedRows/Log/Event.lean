import NamedRows.Log.Line

/-!
# Events of tables

What can happen to a table that is worth a log line (`Event`), with the name and the severity each event is reported
under. Looking up rows is detail; changes of a table are information.
-/

namespace NamedRows.Log

/-- What happens to a table. -/
inductive Event
  /-- A table was made of columns. -/
  | tableCreated
  /-- The directory of names was built. -/
  | directoryBuilt
  /-- A column was assigned. -/
  | columnReplaced
  /-- One value was written into every row of a column. -/
  | columnBroadcast
  | columnDeleted
  | columnOrderChanged
  /-- A selector could not be resolved. -/
  | selectorRejected
  deriving DecidableEq, Repr

namespace Event

def name : Event → String
  | tableCreated => "TABLE_CREATED"
  | directoryBuilt => "NAME_INDEX_BUILT"
  | columnReplaced => "COLUMN_REPLACED"
  | columnBroadcast => "COLUMN_BROADCAST"
  | columnDeleted => "COLUMN_DELETED"
  | columnOrderChanged => "COLUMN_ORDER_CHANGED"
  | selectorRejected => "SELECTOR_REJECTED"

/-- All events. -/
def all : List Event :=
  [tableCreated, directoryBuilt, columnReplaced, columnBroadcast, columnDeleted, columnOrderChanged, selectorRejected]

/-- The event of a name. -/
def named? (name : String) : Option Event := all.find? fun e => e.name = name

/-- The severity an event is reported under. -/
def severity : Event → Severity
  | directoryBuilt => .trace
  | selectorRejected => .trace
  | _ => .info

/-- The line that reports an event. -/
def line (e : Event) (fields : List (String × String)) : Line := ⟨e.severity, e.name, fields⟩

end Event

end NamedRows.Log
