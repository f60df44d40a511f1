/-!
# Configuration of tables

Which column names the rows, what happens to ends of name ranges outside the table, and whether events are reported
(`Config`).
-/

namespace NamedRows

/-- What becomes of an end of a name range that lies outside the table. -/
inductive Overrun
  /-- It moves to the first or last row. -/
  | clamp
  /-- It is an error. -/
  | fail
  deriving DecidableEq, Repr

def Overrun.name : Overrun → String
  | .clamp => "clamp"
  | .fail => "fail"

/-- The configuration of a table. -/
structure Config where
  /-- The column that names the rows. -/
  key : String := "name"
  overrun : Overrun := .clamp
  /-- Whether the table reports events. -/
  reports : Bool := true
  deriving DecidableEq, Repr

end NamedRows
