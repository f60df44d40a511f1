import NamedRows.Expr.Grammar

/-!
# Rendering expressions

How an expression is written. Its tokens hold parentheses only around operands that the grammar would otherwise take
apart (`Expr.tokens`); each token is spelt in one of the ways in which it can be (`TokenKind.Spelling`), with one blank
between two of them (`TokenKind.Spaced`). A number may have many spellings and a text two, so an expression may have
many renderings (`Expr.Renders`); some expressions have none (`Expr.Writable`). What is open at once in a rendering is
counted by `Expr.levels`.
-/

namespace NamedRows

open NamedRows.Expr (Phrase)

namespace Expr

/-- How loosely a sort of phrases holds together. A phrase of one sort stands for one of every looser sort. -/
def Phrase.rank : Phrase → Nat
  | .atom => 0
  | .power => 1
  | .unary => 2
  | .level .mul => 3
  | .level .add => 4
  | .cmp => 5
  | .level .and => 6
  | .level .or => 7

end Expr

namespace BinaryOp

/-- The sort of phrases that an operator makes. -/
def phrase : BinaryOp → Phrase
  | pow => .power
  | mul | div | rem => .level .mul
  | add | sub => .level .add
  | lt | le | gt | ge | eq | ne => .cmp
  | and => .level .and
  | or => .level .or

/-- The sort of phrases expected before an operator. Powers combine to the right and comparisons not at all. -/
def left : BinaryOp → Phrase
  | pow => .atom
  | mul | div | rem => .level .mul
  | add | sub => .level .add
  | lt | le | gt | ge | eq | ne => .level .add
  | and => .level .and
  | or => .level .or

/-- The sort of phrases expected after an operator. An exponent may have an operator before it. -/
def right : BinaryOp → Phrase
  | pow => .unary
  | mul | div | rem => .unary
  | add | sub => .level .mul
  | lt | le | gt | ge | eq | ne => .level .add
  | and => .cmp
  | or => .level .and

end BinaryOp

namespace Expr

/-! ## Tokens -/

/-- The sort of phrases an expression is without parentheses around it. -/
def phrase : Expr → Phrase
  | number _ => .atom
  | text _ => .atom
  | column _ => .atom
  | unary _ _ => .unary
  | binary op _ _ => op.phrase
  | call1 _ _ => .atom
  | call2 _ _ _ => .atom

/-- A phrase of the sort `q` where one of the sort `p` is expected: in parentheses if it is looser. -/
def enclosed (p q : Phrase) (ts : List TokenKind) : List TokenKind :=
  if q.rank ≤ p.rank then ts else .open :: (ts ++ [.close])

/-- The tokens of an expression, with parentheses only around operands that are looser than what is expected there. -/
def tokens : Expr → List TokenKind
  | number x => [.number x]
  | text s => [.text s]
  | column name => [.name name]
  | unary op e => op.token :: enclosed .unary e.phrase e.tokens
  | binary op l r => enclosed op.left l.phrase l.tokens ++ op.token :: enclosed op.right r.phrase r.tokens
  | call1 f a => .name f.name :: .open :: (a.tokens ++ [.close])
  | call2 f a b => .name f.name :: .open :: (a.tokens ++ .comma :: (b.tokens ++ [.close]))

/-! ## Nesting -/

/-- What is open at once in a phrase of the sort `q` where one of the sort `p` is expected. -/
def opened (p q : Phrase) (n : Nat) : Nat := if q.rank ≤ p.rank then n else n + 1

/-- The most unary phrases that are open at once in the tokens of an expression. One is open around everything; a group,
the arguments of a call, what follows an operator before an operand, and an exponent open one more. -/
def levels : Expr → Nat
  | number _ => 1
  | text _ => 1
  | column _ => 1
  | unary _ e => opened .unary e.phrase e.levels + 1
  | binary op l r =>
    max (opened op.left l.phrase l.levels) (opened op.right r.phrase r.levels + if op = .pow then 1 else 0)
  | call1 _ a => a.levels + 1
  | call2 _ a b => max a.levels b.levels + 1

end Expr

/-! ## Texts -/

/-- A name starts with a letter or an underscore and goes on with letters, digits, underscores and points. -/
def Token.isName (s : String) : Bool :=
  match s.toList with
  | [] => false
  | c :: rest => (c.isAlpha || c = '_') && rest.all isNameChar

namespace TokenKind

/-- The texts that stand for a token: a number is any literal with its value, a text stands between two quotes of a sort
that it does not hold, and a name is itself. -/
def Spelling : TokenKind → String → Prop
  | .number x, w =>
    ∃ c rest, w.toList = c :: rest ∧ (c.isDigit ∨ c = '.') ∧ Token.numberTail c rest = rest.length ∧
      Decimal.toFloat? (c :: rest) = some x
  | .text s, w => ∃ quote, (quote = '\'' ∨ quote = '"') ∧ quote ∉ s.toList ∧ w.toList = quote :: (s.toList ++ [quote])
  | .name s, w => w = s ∧ Token.isName s
  | .plus, w => w = "+"
  | .minus, w => w = "-"
  | .star, w => w = "*"
  | .power, w => w = "**"
  | .slash, w => w = "/"
  | .percent, w => w = "%"
  | .open, w => w = "("
  | .close, w => w = ")"
  | .comma, w => w = ","
  | .lt, w => w = "<"
  | .le, w => w = "<="
  | .gt, w => w = ">"
  | .ge, w => w = ">="
  | .eq, w => w = "=="
  | .ne, w => w = "!="
  | .and, w => w = "&"
  | .or, w => w = "|"
  | .not, w => w = "~"

/-- Tokens spelt one after another, with one blank between two of them. -/
inductive Spaced : List TokenKind → List Char → Prop
  | last {k : TokenKind} {w : String} : k.Spelling w → Spaced [k] w.toList
  | cons {k : TokenKind} {w : String} {ks : List TokenKind} {cs : List Char} : k.Spelling w → Spaced ks cs →
    Spaced (k :: ks) (w.toList ++ ' ' :: cs)

end TokenKind

namespace Expr

/-- A text is a rendering of an expression. -/
def Renders (e : Expr) (text : String) : Prop := TokenKind.Spaced e.tokens text.toList

/-- An expression has numbers that some literal reads as, texts that lack one of the two quotes, and columns with names
that can be written. -/
def Writable : Expr → Prop
  | number x => ∃ literal, (TokenKind.number x).Spelling literal
  | text s => '\'' ∉ s.toList ∨ '"' ∉ s.toList
  | column name => Token.isName name
  | unary _ e => e.Writable
  | binary _ l r => l.Writable ∧ r.Writable
  | call1 _ a => a.Writable
  | call2 _ a b => a.Writable ∧ b.Writable

end Expr

end NamedRows
