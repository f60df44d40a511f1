import NamedRows.Expr.Arithmetic
import NamedRows.Expr.Reader
import NamedRows.Expr.Value

/-!
# Evaluating expressions

An expression is evaluated over columns found by name (`Expr.eval`). Operands are evaluated from left to right and
always all of them; arithmetic promotes integers and truth values to doubles, comparisons give truth values, and texts
compare only with texts. A NaN differs from everything and satisfies no other comparison.
-/

namespace NamedRows.Expr

/-- What the arithmetic operators compute. -/
def arithmetic? : BinaryOp → Option (Float → Float → Float)
  | .add => some (· + ·)
  | .sub => some (· - ·)
  | .mul => some (· * ·)
  | .div => some (· / ·)
  | .rem => some Arithmetic.rem
  | .pow => some Float.pow
  | _ => none

/-- What the logical operators compute. -/
def logic? : BinaryOp → Option (Bool → Bool → Bool)
  | .and => some (· && ·)
  | .or => some (· || ·)
  | _ => none

/-- Which orders a comparison accepts. -/
def accepts : BinaryOp → Ordering → Bool
  | .lt => Ordering.isLT
  | .le => Ordering.isLE
  | .gt => Ordering.isGT
  | .ge => Ordering.isGE
  | .eq => Ordering.isEq
  | .ne => Ordering.isNe
  | _ => fun _ => false

/-- A comparison of two numbers; numbers without an order only differ. -/
def acceptsNumbers (op : BinaryOp) (a b : Float) : Bool :=
  match compareFloat? a b with
  | some o => accepts op o
  | none => accepts op .lt && accepts op .gt

/-- A comparison of two values. -/
def compareValues (op : BinaryOp) : Value → Value → Except Error Value
  | .text a, .text b => .bool <$> Operand.combine (fun a b => accepts op (compare a b)) a b
  | .text _, other => .error (.mismatch (.textComparison other.kindName))
  | other, .text _ => .error (.mismatch (.textComparison other.kindName))
  | l, r => do
    let a ← l.asNumber op.symbol
    let b ← r.asNumber op.symbol
    .bool <$> Operand.combine (acceptsNumbers op) a b

/-- An operator before a value. -/
def evalUnary : UnaryOp → Value → Except Error Value
  | .neg, v => do return .number ((← v.asNumber "-").map fun x => -x)
  | .pos, v => do return .number (← v.asNumber "+")
  | .not, v => do return .bool ((← v.asBool "~").map fun b => !b)

/-- An operator between two values. The left one is checked first. -/
def evalBinary (op : BinaryOp) (l r : Value) : Except Error Value :=
  match arithmetic? op, logic? op with
  | some f, _ => do
    let a ← l.asNumber op.symbol
    let b ← r.asNumber op.symbol
    .number <$> Operand.combine f a b
  | none, some f => do
    let a ← l.asBool op.symbol
    let b ← r.asBool op.symbol
    .bool <$> Operand.combine f a b
  | none, none => compareValues op l r

variable [Externals]

/-- A call with the values of its arguments, however many they are. Two values are taken for the arguments of a function
of two, the second one checked first; of any other number only the last one is, for that of a function of one. -/
def evalCall (f : Function) (args : List Value) : Except Error Value :=
  match args.reverse with
  | [] => .error (.mismatch (.missingArguments f.name))
  | [r, l] => do
    let b ← r.asNumber f.name
    let a ← l.asNumber f.name
    match f with
    | .one f => .error (.mismatch (.takesOneArgument f.name))
    | .two f => .number <$> Operand.combine (Arithmetic.apply2 f) a b
  | v :: _ => do
    let a ← v.asNumber f.name
    match f with
    | .one f => return .number (a.map (Arithmetic.apply1 f))
    | .two f => .error (.mismatch (.takesTwoArguments f.name))

/-- The value of an expression over the columns found by name. -/
def eval (column? : String → Option Column) : Expr → Except Error Value
  | number x => .ok (.number (.scalar x))
  | text s => .ok (.text (.scalar s))
  | column name =>
    match column? name with
    | some c => .ok (.ofColumn c)
    | none => .error (.undefined name)
  | unary op e => do evalUnary op (← e.eval column?)
  | binary op l r => do
    let a ← l.eval column?
    let b ← r.eval column?
    evalBinary op a b
  | call1 f a => do evalCall (.one f) [← a.eval column?]
  | call2 f a b => do
    let a ← a.eval column?
    let b ← b.eval column?
    evalCall (.two f) [a, b]

/-- What an expression comes to. -/
def compute (column? : String → Option Column) (e : Expr) : Except Error Computed :=
  (e.eval column?).map Value.computed

/-- Reads an expression and evaluates it. -/
def evaluate (column? : String → Option Column) (expression : String) : Except Error Computed := do
  (← parse expression).compute column?

end NamedRows.Expr
