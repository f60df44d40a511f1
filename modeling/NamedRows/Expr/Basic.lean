/-!
# Expressions

Expressions over columns as trees (`Expr`): numbers, texts, columns by name, operators and calls of the known functions.
A call holds exactly the arguments its function takes, so a tree is always well formed. `Expr.columns` lists the columns
an expression reads.
-/

namespace NamedRows

inductive UnaryOp
  | neg | pos | not
  deriving DecidableEq, Repr

inductive BinaryOp
  | add | sub | mul | div | rem | pow
  | lt | le | gt | ge | eq | ne
  | and | or
  deriving DecidableEq, Repr

/-- The functions of one argument. -/
inductive Function1
  | sqrt | abs | exp | log | log10 | log2
  | sin | cos | tan | arcsin | arccos | arctan | sinh | cosh | tanh
  | floor | ceil | round | sign
  deriving DecidableEq, Repr

/-- The functions of two arguments. -/
inductive Function2
  | arctan2 | hypot | minimum | maximum | power
  deriving DecidableEq, Repr

/-- The functions an expression may call. -/
inductive Function
  | one (f : Function1)
  | two (f : Function2)
  deriving DecidableEq, Repr

def UnaryOp.symbol : UnaryOp → String
  | .neg => "-"
  | .pos => "+"
  | .not => "~"

def BinaryOp.symbol : BinaryOp → String
  | .add => "+"
  | .sub => "-"
  | .mul => "*"
  | .div => "/"
  | .rem => "%"
  | .pow => "**"
  | .lt => "<"
  | .le => "<="
  | .gt => ">"
  | .ge => ">="
  | .eq => "=="
  | .ne => "!="
  | .and => "&"
  | .or => "|"

def Function1.name : Function1 → String
  | .sqrt => "sqrt"
  | .abs => "abs"
  | .exp => "exp"
  | .log => "log"
  | .log10 => "log10"
  | .log2 => "log2"
  | .sin => "sin"
  | .cos => "cos"
  | .tan => "tan"
  | .arcsin => "arcsin"
  | .arccos => "arccos"
  | .arctan => "arctan"
  | .sinh => "sinh"
  | .cosh => "cosh"
  | .tanh => "tanh"
  | .floor => "floor"
  | .ceil => "ceil"
  | .round => "round"
  | .sign => "sign"

def Function2.name : Function2 → String
  | .arctan2 => "arctan2"
  | .hypot => "hypot"
  | .minimum => "minimum"
  | .maximum => "maximum"
  | .power => "power"

namespace Function

def name : Function → String
  | one f => f.name
  | two f => f.name

/-- The number of arguments a function takes. -/
def arity : Function → Nat
  | one _ => 1
  | two _ => 2

/-- Every function. -/
def all : List Function :=
  ([.sqrt, .abs, .exp, .log, .log10, .log2, .sin, .cos, .tan, .arcsin, .arccos, .arctan, .sinh, .cosh, .tanh,
    .floor, .ceil, .round, .sign] : List Function1).map one ++
  ([.arctan2, .hypot, .minimum, .maximum, .power] : List Function2).map two

/-- The function with a name. -/
def named? (s : String) : Option Function := all.find? fun f => f.name = s

end Function

/-- Expressions over columns. -/
inductive Expr
  | number (x : Float)
  | text (s : String)
  | column (name : String)
  | unary (op : UnaryOp) (e : Expr)
  | binary (op : BinaryOp) (l r : Expr)
  | call1 (f : Function1) (a : Expr)
  | call2 (f : Function2) (a b : Expr)
  deriving DecidableEq, Repr

namespace Expr

/-- The names of the columns in an expression, from left to right, as often as they stand there. -/
def mentions : Expr → List String
  | number _ => []
  | text _ => []
  | column name => [name]
  | unary _ e => e.mentions
  | binary _ l r => l.mentions ++ r.mentions
  | call1 _ a => a.mentions
  | call2 _ a b => a.mentions ++ b.mentions

/-- The columns an expression reads, each once, in order of first use. -/
def columns (e : Expr) : List String := e.mentions.eraseDups

/-- The number of nodes on the longest path down the tree. -/
def height : Expr → Nat
  | number _ => 1
  | text _ => 1
  | column _ => 1
  | unary _ e => e.height + 1
  | binary _ l r => max l.height r.height + 1
  | call1 _ a => a.height + 1
  | call2 _ a b => max a.height b.height + 1

end Expr

end NamedRows
