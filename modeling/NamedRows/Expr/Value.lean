import NamedRows.Column

/-!
# Values of expressions

While an expression is evaluated its parts are numbers, truth values or texts, and each either one value or one value a
row (`Value`, `Operand`). A single value goes with every row of the other side (`Operand.combine`).
-/

namespace NamedRows

/-- One value for all rows, or one a row. -/
inductive Operand (α : Type)
  | scalar (a : α)
  | array (as : Array α)
  deriving Repr, DecidableEq

namespace Operand

variable {α β γ : Type}

def map (f : α → β) : Operand α → Operand β
  | scalar a => scalar (f a)
  | array as => array (as.map f)

/-- Combines two operands row by row; arrays have to be of one length. -/
def combine (f : α → β → γ) : Operand α → Operand β → Except Error (Operand γ)
  | scalar a, scalar b => .ok (scalar (f a b))
  | scalar a, array bs => .ok (array (bs.map (f a)))
  | array as, scalar b => .ok (array (as.map (f · b)))
  | array as, array bs =>
    if as.size = bs.size then .ok (array (as.zipWith f bs))
    else .error (.mismatch (.unequalOperands as.size bs.size))

end Operand

/-- The value of a part of an expression. -/
inductive Value
  | number (x : Operand Float)
  | bool (b : Operand Bool)
  | text (s : Operand String)
  deriving Repr, DecidableEq

/-- What an expression comes to: one cell, or a column. -/
inductive Computed
  | cell (c : Cell)
  | column (c : Column)
  deriving Repr, DecidableEq

namespace Value

/-- The value of a column. Integers count as numbers. -/
def ofColumn : Column → Value
  | .float cells => number (.array cells)
  | .int cells => number (.array (cells.map floatOfInt))
  | .text cells => text (.array cells)
  | .bool cells => bool (.array cells)

/-- The word for a value's kind in messages. -/
def kindName : Value → String
  | number _ => "number"
  | bool _ => "bool"
  | text _ => "text"

/-- A value as numbers, for an operator that needs them; texts are refused. -/
def asNumber (operator : String) : Value → Except Error (Operand Float)
  | number x => .ok x
  | bool b => .ok (b.map floatOfBool)
  | text _ => .error (.mismatch (.textOperand operator))

/-- A value as truth values, for an operator that needs them. -/
def asBool (operator : String) : Value → Except Error (Operand Bool)
  | bool b => .ok b
  | v => .error (.mismatch (.nonBoolean operator v.kindName))

/-- The result a value stands for. -/
def computed : Value → Computed
  | number (.scalar x) => .cell (.float x)
  | number (.array xs) => .column (.float xs)
  | bool (.scalar b) => .cell (.bool b)
  | bool (.array bs) => .column (.bool bs)
  | text (.scalar s) => .cell (.text s)
  | text (.array ss) => .column (.text ss)

end Value

end NamedRows
