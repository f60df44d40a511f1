import NamedRows.Cell

/-!
# Errors

Why an operation on a table can fail (`Error`), sorted into six families (`Error.Family`) that callers tell apart by a
stable code (`Error.Family.code`). Each family lists its causes as constructors; the wording is in `Error.message`
alone.
-/

namespace NamedRows

namespace Error

/-- What makes a set of columns, or an order of them, unacceptable. -/
inductive Construction
  /-- Two columns have one name. -/
  | duplicateColumn (name : String)
  /-- Two columns of a new table differ in length. -/
  | unequalLengths (first : String) (firstRows : Nat) (other : String) (otherRows : Nat)
  /-- A column does not fit the table it is put into. -/
  | wrongLength (name : String) (rows tableRows : Nat)
  /-- An order of columns names one twice. -/
  | duplicateInOrder (name : String)
  /-- An order of columns leaves some out. -/
  | incompleteOrder (named total : Nat)
  deriving DecidableEq, Repr

/-- What makes a text unreadable. -/
inductive Malformed
  | badShift (address : String)
  | badOccurrence (address : String)
  | shiftOverflow
  | missingName
  | zeroStep
  | badPattern
  | badConfig
  | unterminatedText
  | badNumber
  | strayCharacter (expression : String)
  | nestedTooDeeply
  | trailingToken (expression : String)
  | missingClose (expression : String)
  | missingOperand (expression : String)
  | wrongArity (function : String) (arity given : Nat) (expression : String)
  | endBeforeClose
  | endBeforeOperand
  deriving DecidableEq, Repr

/-- What an index ran out of. -/
inductive Extent
  /-- The rows of a table, or of the part of it that is looked at. -/
  | rows (count : Nat)
  /-- The rows with one name. -/
  | occurrences (name : String) (found : Nat)
  /-- The rows whose names match a pattern. -/
  | hits (pattern : String) (found : Nat)
  /-- The positions that 64 bits can hold, counted from a named row. -/
  | shiftFrom (name : String)
  /-- The cells of a column. -/
  | column
  deriving DecidableEq, Repr

/-- What does not fit the kind of a value. -/
inductive Mismatch
  | broadcast (value column : Kind)
  | maskKind (given : Kind)
  | maskLength (entries rows : Nat)
  | bound (columnKind : Kind) (column : String) (value : Cell)
  | notCondition (expression : String) (given : Kind)
  | textOperand (operator : String)
  | nonBoolean (operator given : String)
  | textComparison (given : String)
  | unequalOperands (left right : Nat)
  | missingArguments (function : String)
  | takesOneArgument (function : String)
  | takesTwoArguments (function : String)
  deriving DecidableEq, Repr

/-- The families of errors. -/
inductive Family
  | construction | parse | name | index | lookup | type
  deriving DecidableEq, Repr

/-- The stable code of a family. -/
def Family.code : Family → String
  | .construction => "TABLE_CONSTRUCTION"
  | .parse => "TABLE_PARSE"
  | .name => "TABLE_NAME"
  | .index => "TABLE_INDEX"
  | .lookup => "TABLE_LOOKUP"
  | .type => "TABLE_TYPE"

end Error

/-- Why an operation failed. -/
inductive Error
  /-- The columns do not form a table. -/
  | construction (cause : Error.Construction)
  /-- A text cannot be read; the culprit is the part of it that is at fault. -/
  | malformed (culprit : String) (cause : Error.Malformed)
  /-- A name stands for nothing. -/
  | undefined (name : String)
  /-- An index lies outside what it counts. -/
  | outOfRange (index : Int) (extent : Error.Extent)
  /-- A plain name occurs nowhere in the key column. -/
  | noSuchRow (key column : String)
  /-- A value has the wrong kind. -/
  | mismatch (cause : Error.Mismatch)
  deriving DecidableEq, Repr

namespace Error

/-- The family an error belongs to. -/
def family : Error → Family
  | .construction _ => .construction
  | .malformed .. => .parse
  | .undefined _ => .name
  | .outOfRange .. => .index
  | .noSuchRow .. => .lookup
  | .mismatch _ => .type

/-- Whether something is missing, rather than wrongly asked for. -/
def isMiss (e : Error) : Bool := e.family = .name || e.family = .lookup

def Construction.message : Construction → String
  | .duplicateColumn name => s!"Duplicate column name '{name}'"
  | .unequalLengths first firstRows other otherRows =>
    s!"Columns have different lengths: '{first}' has {firstRows} rows, '{other}' has {otherRows}"
  | .wrongLength name rows tableRows => s!"Column '{name}' has {rows} rows, table has {tableRows}"
  | .duplicateInOrder name => s!"Duplicate column name '{name}' in column order"
  | .incompleteOrder named total => s!"Column order names {named} of {total} columns"

def Malformed.message : Malformed → String
  | .badShift address => s!"offset in selector '{address}' is not an integer"
  | .badOccurrence address => s!"occurrence count in selector '{address}' is not an integer"
  | .shiftOverflow => "offset out of range"
  | .missingName => "missing base name"
  | .zeroStep => "slice step cannot be zero"
  | .badPattern => "invalid name pattern"
  | .badConfig => "invalid table config"
  | .unterminatedText => "unterminated string literal"
  | .badNumber => "invalid number"
  | .strayCharacter expression => s!"unexpected character in expression '{expression}'"
  | .nestedTooDeeply => "expression nested too deeply"
  | .trailingToken expression => s!"unexpected token after expression in '{expression}'"
  | .missingClose expression => s!"expected ')' in '{expression}'"
  | .missingOperand expression => s!"expected number, identifier or '(' in '{expression}'"
  | .wrongArity function arity given expression =>
    s!"'{function}' takes {arity} argument(s), got {given} in '{expression}'"
  | .endBeforeClose => "expected ')', got end of input"
  | .endBeforeOperand => "expected expression, got end of input"

def Extent.message : Extent → String
  | .rows count => s!"table with {count} rows"
  | .occurrences name found => s!"occurrences of '{name}' ({found} found)"
  | .hits pattern found => s!"matches of '{pattern}' ({found} found)"
  | .shiftFrom name => s!"offset from '{name}'"
  | .column => "column"

def Mismatch.message : Mismatch → String
  | .broadcast value column => s!"cannot broadcast {value.name} value into {column.name} column"
  | .maskKind given => s!"a row mask must be a bool column, got {given.name}"
  | .maskLength entries rows => s!"mask has {entries} entries for {rows} rows"
  | .bound columnKind column value =>
    s!"cannot bound {columnKind.name} column '{column}' by {value.kind.name} value {value.plain}"
  | .notCondition expression given => s!"'{expression}' is a {given.name} value, not a condition"
  | .textOperand operator => s!"'{operator}' is not defined for text operands"
  | .nonBoolean operator given => s!"'{operator}' expects boolean operands, got {given}"
  | .textComparison given => s!"cannot compare text with {given}"
  | .unequalOperands left right => s!"operands have different lengths ({left} and {right})"
  | .missingArguments function => s!"'{function}' is missing arguments"
  | .takesOneArgument function => s!"'{function}' takes one argument"
  | .takesTwoArguments function => s!"'{function}' takes two arguments"

/-- The wording of an error. -/
def message : Error → String
  | .construction cause => cause.message
  | .malformed culprit cause => s!"invalid syntax in '{culprit}': {cause.message}"
  | .undefined name => s!"name '{name}' is not defined"
  | .outOfRange index extent => s!"index {index} is out of range for {extent.message}"
  | .noSuchRow key column => s!"Cannot find '{key}' in column '{column}'"
  | .mismatch cause => s!"type mismatch: {cause.message}"

end Error

end NamedRows
