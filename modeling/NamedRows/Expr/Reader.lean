import NamedRows.Expr.Basic
import NamedRows.Expr.Token

/-!
# Reading expressions

Expressions are read by descent through the levels of the operators, lowest first:

    |
    &
    < <= > >= == !=      (one at most)
    + -
    * / %
    - + ~                before an operand
    **                   to the right, and binding tighter than an operator before its base

A reader consumes at least one token, which its type records (`Reader`), so loops over operators end. What may nest is
bounded: `Expr.operand` counts the operands that are open at once and gives up at `Expr.maxDepth`.
-/

namespace NamedRows.Expr

/-- The most operands that may be open at once. -/
def maxDepth : Nat := 100

/-- The tokens left over after at least one. -/
abbrev Rest (ts : List Token) : Type := { rest : List Token // rest.length < ts.length }

/-- Reads an expression from the front of a list of tokens. -/
abbrev Reader : Type := (ts : List Token) → Except Error (Expr × Rest ts)

/-- A token where something else was expected. -/
def unexpected {α : Type} (expression : String) (t : Token) (cause : Error.Malformed) : Except Error α :=
  .error (.malformed (t.lexeme expression) cause)

/-- The end of the tokens where something was expected. -/
def ended {α : Type} (expression : String) (cause : Error.Malformed) : Except Error α :=
  .error (.malformed expression cause)

/-- Reads on while operators of one level follow, and combines to the left. -/
def foldOperators (op? : TokenKind → Option BinaryOp) (operand : Reader) (lhs : Expr) (ts : List Token) :
    Except Error (Expr × { rest : List Token // rest.length ≤ ts.length }) :=
  match ts with
  | [] => .ok (lhs, ⟨[], Nat.le_refl _⟩)
  | t :: rest =>
    match op? t.kind with
    | none => .ok (lhs, ⟨t :: rest, Nat.le_refl _⟩)
    | some op =>
      match operand rest with
      | .error e => .error e
      | .ok (rhs, ⟨rest', h⟩) =>
        match foldOperators op? operand (.binary op lhs rhs) rest' with
        | .error e => .error e
        | .ok (e, ⟨rest'', h'⟩) => .ok (e, ⟨rest'', by simp only [List.length_cons]; omega⟩)
termination_by ts.length
decreasing_by simp only [List.length_cons]; omega

/-- A level of operators that combine to the left. -/
def leftLevel (op? : TokenKind → Option BinaryOp) (operand : Reader) : Reader := fun ts =>
  match operand ts with
  | .error e => .error e
  | .ok (lhs, ⟨rest, h⟩) =>
    match foldOperators op? operand lhs rest with
    | .error e => .error e
    | .ok (e, ⟨rest', h'⟩) => .ok (e, ⟨rest', by omega⟩)

/-- The products. -/
def mulOp? : TokenKind → Option BinaryOp
  | .star => some .mul
  | .slash => some .div
  | .percent => some .rem
  | _ => none

/-- The sums. -/
def addOp? : TokenKind → Option BinaryOp
  | .plus => some .add
  | .minus => some .sub
  | _ => none

/-- The comparisons. -/
def compareOp? : TokenKind → Option BinaryOp
  | .lt => some .lt
  | .le => some .le
  | .gt => some .gt
  | .ge => some .ge
  | .eq => some .eq
  | .ne => some .ne
  | _ => none

def andOp? : TokenKind → Option BinaryOp
  | .and => some .and
  | _ => none

def orOp? : TokenKind → Option BinaryOp
  | .or => some .or
  | _ => none

/-- A sum, or one comparison of two sums. -/
def comparison (operand : Reader) : Reader := fun ts =>
  let sum := leftLevel addOp? (leftLevel mulOp? operand)
  match sum ts with
  | .error e => .error e
  | .ok (lhs, ⟨[], h⟩) => .ok (lhs, ⟨[], h⟩)
  | .ok (lhs, ⟨t :: rest, h⟩) =>
    match compareOp? t.kind with
    | none => .ok (lhs, ⟨t :: rest, h⟩)
    | some op =>
      match sum rest with
      | .error e => .error e
      | .ok (rhs, ⟨rest', h'⟩) =>
        .ok (.binary op lhs rhs, ⟨rest', by simp only [List.length_cons] at h; omega⟩)

/-- The lowest level, given how operands of products are read. -/
def disjunction (operand : Reader) : Reader := leftLevel orOp? (leftLevel andOp? (comparison operand))

/-- A closing parenthesis. -/
def closing (expression : String) : (ts : List Token) → Except Error (Rest ts)
  | [] => ended expression .endBeforeClose
  | t :: rest =>
    if t.kind = .close then .ok ⟨rest, Nat.lt_succ_self _⟩ else unexpected expression t (.missingClose expression)

/-- The arguments of a call after the first one, and the closing parenthesis. -/
def moreArguments (expression : String) (inner : Reader) (ts : List Token) : Except Error (List Expr × Rest ts) :=
  match ts with
  | [] => ended expression .endBeforeClose
  | t :: rest =>
    if t.kind = .comma then
      match inner rest with
      | .error e => .error e
      | .ok (a, ⟨rest', h⟩) =>
        match moreArguments expression inner rest' with
        | .error e => .error e
        | .ok (as, ⟨rest'', h'⟩) => .ok (a :: as, ⟨rest'', by simp only [List.length_cons]; omega⟩)
    else if t.kind = .close then .ok ([], ⟨rest, Nat.lt_succ_self _⟩)
    else unexpected expression t (.missingClose expression)
termination_by ts.length
decreasing_by simp only [List.length_cons]; omega

/-- The arguments of a call and the closing parenthesis. -/
def arguments (expression : String) (inner : Reader) (ts : List Token) : Except Error (List Expr × Rest ts) :=
  match ts with
  | ⟨.close, _, _⟩ :: rest => .ok ([], ⟨rest, Nat.lt_succ_self _⟩)
  | ts =>
    match inner ts with
    | .error e => .error e
    | .ok (a, ⟨rest, h⟩) =>
      match moreArguments expression inner rest with
      | .error e => .error e
      | .ok (as, ⟨rest', h'⟩) => .ok (a :: as, ⟨rest', by omega⟩)

/-- The call of a function, if it got the arguments it takes. -/
def applied? : Function → List Expr → Option Expr
  | .one f, [a] => some (.call1 f a)
  | .two f, [a, b] => some (.call2 f a b)
  | _, _ => none

/-- A number, a text, a column, a call or a group. A name before a parenthesis is a call, and the function has to be
known before its arguments are looked at. -/
def atom (expression : String) (inner : Reader) : Reader
  | [] => ended expression .endBeforeOperand
  | t :: rest =>
    match t.kind with
    | .number x => .ok (.number x, ⟨rest, Nat.lt_succ_self _⟩)
    | .text s => .ok (.text s, ⟨rest, Nat.lt_succ_self _⟩)
    | .open =>
      match inner rest with
      | .error e => .error e
      | .ok (e, ⟨rest', h⟩) =>
        match closing expression rest' with
        | .error e => .error e
        | .ok ⟨rest'', h'⟩ => .ok (e, ⟨rest'', by simp only [List.length_cons]; omega⟩)
    | .name s =>
      match rest with
      | ⟨.open, _, _⟩ :: args =>
        match Function.named? s with
        | none => .error (.undefined s)
        | some f =>
          match arguments expression inner args with
          | .error e => .error e
          | .ok (as, ⟨rest', h⟩) =>
            match applied? f as with
            | some e => .ok (e, ⟨rest', by simp only [List.length_cons]; omega⟩)
            | none => unexpected expression t (.wrongArity s f.arity as.length expression)
      | rest => .ok (.column s, ⟨rest, Nat.lt_succ_self _⟩)
    | _ => unexpected expression t (.missingOperand expression)

/-- An atom, or a power of one. -/
def power (expression : String) (inner exponent : Reader) : Reader := fun ts =>
  match atom expression inner ts with
  | .error e => .error e
  | .ok (base, ⟨[], h⟩) => .ok (base, ⟨[], h⟩)
  | .ok (base, ⟨t :: rest, h⟩) =>
    if t.kind = .power then
      match exponent rest with
      | .error e => .error e
      | .ok (e, ⟨rest', h'⟩) => .ok (.binary .pow base e, ⟨rest', by simp only [List.length_cons] at h; omega⟩)
    else .ok (base, ⟨t :: rest, h⟩)

/-- The operators that may stand before an operand. -/
def unaryOp? : TokenKind → Option UnaryOp
  | .minus => some .neg
  | .plus => some .pos
  | .not => some .not
  | _ => none

/-- An operator before an operand, or a power; `next` reads what is nested one level deeper. -/
def prefixed (expression : String) (next : Reader) : Reader
  | [] => ended expression .endBeforeOperand
  | t :: rest =>
    match unaryOp? t.kind with
    | none => power expression (disjunction next) next (t :: rest)
    | some op =>
      match next rest with
      | .error e => .error e
      | .ok (e, ⟨rest', h⟩) => .ok (.unary op e, ⟨rest', by simp only [List.length_cons]; omega⟩)

/-- An operand of a product, with at most `depth` operands open inside one another. Groups, arguments, exponents and
operators before an operand all lead back here, so the count bounds every way of nesting. -/
def operand (expression : String) : (depth : Nat) → Reader
  | 0 => fun _ => .error (.malformed expression .nestedTooDeeply)
  | depth + 1 => prefixed expression (operand expression depth)

/-- Reads a whole list of tokens. -/
def ofTokens (expression : String) (ts : List Token) : Except Error Expr :=
  match disjunction (operand expression maxDepth) ts with
  | .error e => .error e
  | .ok (e, ⟨[], _⟩) => .ok e
  | .ok (_, ⟨t :: _, _⟩) => unexpected expression t (.trailingToken expression)

/-- Reads an expression. -/
def parse (expression : String) : Except Error Expr :=
  (Token.scan expression).bind (ofTokens expression)

end NamedRows.Expr
