import NamedRows.Decimal.Literal
import NamedRows.Error
import NamedRows.Text.Span

/-!
# Tokens of expressions

An expression is cut into tokens from left to right (`Token.scan`). Blanks separate tokens and are dropped. Names are
made of ASCII letters, digits, underscores and points; texts stand between two quotes of one sort and have no escapes;
a number takes in every digit, point and exponent mark that follows, and a sign after an exponent mark, and then has to
read as a decimal literal. Every token keeps its span in the text.
-/

namespace NamedRows

/-- What a token is. -/
inductive TokenKind
  | number (x : Float)
  | text (s : String)
  | name (s : String)
  | plus | minus | star | power | slash | percent
  | open | close | comma
  | lt | le | gt | ge | eq | ne
  | and | or | not
  deriving DecidableEq, Repr

/-- A token with its span. -/
structure Token where
  kind : TokenKind
  start : Nat
  stop : Nat
  deriving DecidableEq, Repr

namespace Token

/-- The blanks between tokens. -/
def isSeparator (c : Char) : Bool := c = ' ' || c = '\t' || c = '\n' || c = '\r' || c = '\x0c'

/-- The characters of names after the first. -/
def isNameChar (c : Char) : Bool := c.isAlphanum || c = '_' || c = '.'

/-- An exponent mark. -/
def isExponentMark (c : Char) : Bool := c = 'e' || c = 'E'

/-- How many further characters belong to a number whose last character so far is `last`. -/
def numberTail (last : Char) : List Char → Nat
  | [] => 0
  | c :: rest =>
    if c.isDigit || c = '.' || isExponentMark c || ((c = '+' || c = '-') && isExponentMark last) then
      numberTail c rest + 1
    else 0

/-- The operators and marks: the token that starts with the character `c`, and how many more characters it takes. -/
def symbol? (c : Char) (next : Option Char) : Option (TokenKind × Nat) :=
  match c with
  | '+' => some (.plus, 0)
  | '-' => some (.minus, 0)
  | '*' => if next = some '*' then some (.power, 1) else some (.star, 0)
  | '/' => some (.slash, 0)
  | '%' => some (.percent, 0)
  | '(' => some (.open, 0)
  | ')' => some (.close, 0)
  | ',' => some (.comma, 0)
  | '<' => if next = some '=' then some (.le, 1) else some (.lt, 0)
  | '>' => if next = some '=' then some (.ge, 1) else some (.gt, 0)
  | '=' => if next = some '=' then some (.eq, 1) else none
  | '!' => if next = some '=' then some (.ne, 1) else none
  | '&' => some (.and, 0)
  | '|' => some (.or, 0)
  | '~' => some (.not, 0)
  | _ => none

/-- The token that starts with the character `c`, and how many characters after `c` it takes. -/
def read (expression : String) (c : Char) (rest : List Char) : Except Error (TokenKind × Nat) :=
  match symbol? c rest.head? with
  | some token => .ok token
  | none =>
    if c = '\'' ∨ c = '"' then
      let body := rest.takeWhile (· ≠ c)
      if body.length < rest.length then .ok (.text (String.ofList body), body.length + 1)
      else .error (.malformed (String.ofList (c :: rest)) .unterminatedText)
    else if c.isDigit ∨ c = '.' then
      let tail := numberTail c rest
      let literal := c :: rest.take tail
      match Decimal.toFloat? literal with
      | some x => .ok (.number x, tail)
      | none => .error (.malformed (String.ofList literal) .badNumber)
    else if c.isAlpha ∨ c = '_' then
      let tail := rest.takeWhile isNameChar
      .ok (.name (String.ofList (c :: tail)), tail.length)
    else .error (.malformed (String.singleton c) (.strayCharacter expression))

/-- The tokens of the text that starts at a position. -/
def scanFrom (expression : String) (position : Nat) (cs : List Char) : Except Error (List Token) :=
  match cs with
  | [] => .ok []
  | c :: rest =>
    if isSeparator c then scanFrom expression (position + c.utf8Size) rest
    else do
      let (kind, tail) ← read expression c rest
      let stop := position + Text.byteLength (c :: rest.take tail)
      let tokens ← scanFrom expression stop (rest.drop tail)
      return ⟨kind, position, stop⟩ :: tokens
termination_by cs.length
decreasing_by
  · simp only [List.length_cons]; omega
  · simp only [List.length_drop, List.length_cons]; omega

/-- The tokens of an expression. -/
def scan (expression : String) : Except Error (List Token) := scanFrom expression 0 expression.toList

/-- The part of an expression that a token spans. -/
def lexeme (expression : String) (t : Token) : String :=
  String.ofList ((Text.slice? expression.toList t.start t.stop).getD [])

end Token

end NamedRows
