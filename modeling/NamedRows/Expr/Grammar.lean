import NamedRows.Expr.Basic
import NamedRows.Expr.Token

/-!
# The grammar of expressions

What an expression is written as, apart from how it is read: phrases (`Phrase`) and their derivations (`Derivation`).

    or      := and ("|" and)*
    and     := cmp ("&" cmp)*
    cmp     := add (("<" | "<=" | ">" | ">=" | "==" | "!=") add)?
    add     := mul (("+" | "-") mul)*
    mul     := unary (("*" | "/" | "%") unary)*
    unary   := ("-" | "+" | "~") unary | power
    power   := atom ("**" unary)?
    atom    := NUMBER | STRING | IDENT | IDENT "(" args ")" | "(" or ")"

A derivation knows the tokens it derives (`Derivation.tokens`), the tree they stand for, with repetitions combined to
the left (`Derivation.expr`), and how many unary phrases are open inside one another (`Derivation.nesting`). Only known
functions are called, each with as many arguments as it takes. `Derives` is what a text of tokens has to satisfy to be
read at all.
-/

namespace NamedRows

/-- The token an operator is written as. -/
def UnaryOp.token : UnaryOp → TokenKind
  | .neg => .minus
  | .pos => .plus
  | .not => .not

/-- The token an operator is written as. -/
def BinaryOp.token : BinaryOp → TokenKind
  | .add => .plus
  | .sub => .minus
  | .mul => .star
  | .div => .slash
  | .rem => .percent
  | .pow => .power
  | .lt => .lt
  | .le => .le
  | .gt => .gt
  | .ge => .ge
  | .eq => .eq
  | .ne => .ne
  | .and => .and
  | .or => .or

namespace Expr

/-- The levels whose operators may be repeated. -/
inductive Level
  | or | and | add | mul
  deriving DecidableEq, Repr

/-- The sorts of phrases. -/
inductive Phrase
  | level (l : Level)
  | cmp | unary | power | atom
  deriving DecidableEq, Repr

namespace Level

/-- What stands between the operators of a level. -/
def operand : Level → Phrase
  | or => .level and
  | and => .cmp
  | add => .level mul
  | mul => .unary

/-- The operators of a level. -/
def operators : Level → List BinaryOp
  | or => [.or]
  | and => [.and]
  | add => [.add, .sub]
  | mul => [.mul, .div, .rem]

end Level

/-- The operators that compare. -/
def comparisons : List BinaryOp := [.lt, .le, .gt, .ge, .eq, .ne]

mutual

/-- The derivations of the phrases of each sort. -/
inductive Derivation : Phrase → Type
  | level {l : Level} (first : Derivation l.operand) (rest : Repetition l) : Derivation (.level l)
  | sum (a : Derivation (.level .add)) : Derivation .cmp
  | compare (op : BinaryOp) (h : op ∈ comparisons) (a b : Derivation (.level .add)) : Derivation .cmp
  | signed (op : UnaryOp) (a : Derivation .unary) : Derivation .unary
  | unsigned (a : Derivation .power) : Derivation .unary
  | base (a : Derivation .atom) : Derivation .power
  | raised (a : Derivation .atom) (b : Derivation .unary) : Derivation .power
  | number (x : Float) : Derivation .atom
  | text (s : String) : Derivation .atom
  | column (name : String) : Derivation .atom
  | call1 (f : Function1) (a : Derivation (.level .or)) : Derivation .atom
  | call2 (f : Function2) (a b : Derivation (.level .or)) : Derivation .atom
  | group (a : Derivation (.level .or)) : Derivation .atom

/-- Any number of operators of a level, with an operand after each. -/
inductive Repetition : Level → Type
  | done {l : Level} : Repetition l
  | step {l : Level} (op : BinaryOp) (h : op ∈ l.operators) (a : Derivation l.operand) (rest : Repetition l) :
    Repetition l

end

mutual

/-- The tokens that are derived. -/
def Derivation.tokens : {p : Phrase} → Derivation p → List TokenKind
  | _, .level first rest => first.tokens ++ rest.tokens
  | _, .sum a => a.tokens
  | _, .compare op _ a b => a.tokens ++ op.token :: b.tokens
  | _, .signed op a => op.token :: a.tokens
  | _, .unsigned a => a.tokens
  | _, .base a => a.tokens
  | _, .raised a b => a.tokens ++ .power :: b.tokens
  | _, .number x => [.number x]
  | _, .text s => [.text s]
  | _, .column name => [.name name]
  | _, .call1 f a => .name f.name :: .open :: (a.tokens ++ [.close])
  | _, .call2 f a b => .name f.name :: .open :: (a.tokens ++ .comma :: (b.tokens ++ [.close]))
  | _, .group a => .open :: (a.tokens ++ [.close])

def Repetition.tokens : {l : Level} → Repetition l → List TokenKind
  | _, .done => []
  | _, .step op _ a rest => op.token :: (a.tokens ++ rest.tokens)

end

mutual

/-- The expression that is derived. -/
def Derivation.expr : {p : Phrase} → Derivation p → Expr
  | _, .level first rest => rest.onto first.expr
  | _, .sum a => a.expr
  | _, .compare op _ a b => .binary op a.expr b.expr
  | _, .signed op a => .unary op a.expr
  | _, .unsigned a => a.expr
  | _, .base a => a.expr
  | _, .raised a b => .binary .pow a.expr b.expr
  | _, .number x => .number x
  | _, .text s => .text s
  | _, .column name => .column name
  | _, .call1 f a => .call1 f a.expr
  | _, .call2 f a b => .call2 f a.expr b.expr
  | _, .group a => a.expr

/-- The expression that repeated operators make of what stands before them, combined to the left. -/
def Repetition.onto : {l : Level} → Repetition l → Expr → Expr
  | _, .done, lhs => lhs
  | _, .step op _ a rest, lhs => rest.onto (.binary op lhs a.expr)

end

mutual

/-- The most unary phrases that are open at once on any way down the derivation. -/
def Derivation.nesting : {p : Phrase} → Derivation p → Nat
  | _, .level first rest => max first.nesting rest.nesting
  | _, .sum a => a.nesting
  | _, .compare _ _ a b => max a.nesting b.nesting
  | _, .signed _ a => a.nesting + 1
  | _, .unsigned a => a.nesting + 1
  | _, .base a => a.nesting
  | _, .raised a b => max a.nesting b.nesting
  | _, .number _ => 0
  | _, .text _ => 0
  | _, .column _ => 0
  | _, .call1 _ a => a.nesting
  | _, .call2 _ a b => max a.nesting b.nesting
  | _, .group a => a.nesting

def Repetition.nesting : {l : Level} → Repetition l → Nat
  | _, .done => 0
  | _, .step _ _ a rest => max a.nesting rest.nesting

end

mutual

/-- The names in a derivation from left to right, with whether each is that of a called function. -/
def Derivation.names : {p : Phrase} → Derivation p → List (String × Bool)
  | _, .level first rest => first.names ++ rest.names
  | _, .sum a => a.names
  | _, .compare _ _ a b => a.names ++ b.names
  | _, .signed _ a => a.names
  | _, .unsigned a => a.names
  | _, .base a => a.names
  | _, .raised a b => a.names ++ b.names
  | _, .number _ => []
  | _, .text _ => []
  | _, .column name => [(name, false)]
  | _, .call1 f a => (f.name, true) :: a.names
  | _, .call2 f a b => (f.name, true) :: (a.names ++ b.names)
  | _, .group a => a.names

def Repetition.names : {l : Level} → Repetition l → List (String × Bool)
  | _, .done => []
  | _, .step _ _ a rest => a.names ++ rest.names

end

/-- The names among tokens, with whether a parenthesis opens right after each. -/
def namesOpened : List TokenKind → List (String × Bool)
  | [] => []
  | .name s :: rest => (s, rest.head? = some .open) :: namesOpened rest
  | _ :: rest => namesOpened rest

/-- Tokens derive an expression, with at most 100 unary phrases open at once. -/
def Derives (ts : List TokenKind) (e : Expr) : Prop :=
  ∃ d : Derivation (.level .or), d.tokens = ts ∧ d.expr = e ∧ d.nesting ≤ 100

end Expr

end NamedRows
