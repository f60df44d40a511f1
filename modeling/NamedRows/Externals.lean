/-!
# Functions from outside

Two functions are not fixed here (`Externals`): what a text means as a pattern, and the length of a hypotenuse, which
platforms round in different ways. Rows, tables and sessions are the same for all of them, and what is said of rows,
tables and sessions is said for all of them. The ones that a program runs with are in `NamedRows.Externals.Standard`.
-/

namespace NamedRows

/-- The functions that are not fixed. -/
class Externals where
  /-- The property of texts that a pattern stands for, if it is well formed. -/
  pattern? (pattern : String) : Option (String → Bool)
  /-- The root of the sum of two squares, rounded in whatever way. -/
  hypot (a b : Float) : Float

end NamedRows
