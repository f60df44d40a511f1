import NamedRows.Error
import NamedRows.Externals

/-!
# Patterns over names

A name that holds a character with a meaning in patterns may be read as a pattern (`isPattern`). A pattern is compiled
once (`NamePattern.compile`) and then decides of every name whether it matches as a whole (`NamePattern.hits`). Which
patterns there are and what they match comes from outside (`Externals`).
-/

namespace NamedRows

/-- The characters that make a name a pattern. -/
def patternCharacters : List Char :=
  ['.', '^', '$', '*', '+', '?', '(', ')', '[', ']', '\x7b', '\x7d', '|', '\\']

/-- Whether a name may be read as a pattern. -/
def isPattern (name : String) : Bool := name.toList.any patternCharacters.contains

/-- A compiled pattern. -/
structure NamePattern where
  /-- Whether a name matches. -/
  hits : String → Bool

namespace NamePattern

/-- A pattern between the tests for the two ends of a name. -/
def anchored (pattern : String) : String := "^(?:" ++ pattern ++ ")$"

/-- Compiles a pattern. -/
def compile [Externals] (pattern : String) : Except Error NamePattern :=
  match Externals.pattern? (anchored pattern) with
  | some hits => .ok ⟨hits⟩
  | none => .error (.malformed pattern .badPattern)

end NamePattern

end NamedRows
