import NamedRows.Expr.Token

/-!
# Tokens read byte by byte

`Token.scan` goes through the characters of an expression. This is the same computation on the bytes of its UTF-8 form,
with positions for characters and nothing taken for granted (`Bytewise.scan`). There may be no byte at a position, or no
position before it; a span may start or end inside a character; a token may end where it starts, so that the scan would
never end. All of these are halts (`Halt`). A halt is not an error: no caller is told about it.

A byte is only ever compared with ASCII characters. It is read as the character of its own number, and the bytes of
longer characters are then beyond ASCII.
-/

namespace NamedRows

/-- What stops a scan without being an error. -/
inductive Halt
  /-- There is no byte at a position. -/
  | byte (i size : Nat)
  /-- There is no position before the first one. -/
  | before
  /-- A span does not start and end between characters. -/
  | span (start stop : Nat)
  /-- A token ends where it starts. -/
  | stuck (i : Nat)
  deriving DecidableEq, Repr

/-- A computation that halts, fails or succeeds. -/
abbrev Bytewise (α : Type) := ExceptT Error (Except Halt) α

namespace Bytewise

open Token

/-! ## Accesses -/

def halt {α : Type} (h : Halt) : Bytewise α := ExceptT.mk (.error h)

/-- A computation in which nothing can halt. -/
def plain {α : Type} (x : Except Error α) : Bytewise α := ExceptT.mk (.ok x)

/-- The bytes of the UTF-8 form of a text. -/
def bytes (s : String) : List UInt8 := s.toByteArray.data.toList

/-- The byte at a position. -/
def byte (bs : List UInt8) (i : Nat) : Bytewise UInt8 :=
  match bs[i]? with
  | some b => pure b
  | none => halt (.byte i bs.length)

/-- The position before another one. -/
def before (i : Nat) : Bytewise Nat := if i = 0 then halt .before else pure (i - 1)

/-- The part of a text between two positions. -/
def span (s : String) (start stop : Nat) : Bytewise String :=
  match Text.slice? s.toList start stop with
  | some cs => pure (String.ofList cs)
  | none => halt (.span start stop)

/-! ## Tokens -/

/-- The position after the bytes of a class that stand at a position. -/
def skipWhile (p : UInt8 → Bool) (bs : List UInt8) (i : Nat) : Bytewise Nat :=
  if i < bs.length then do
    let b ← byte bs i
    if p b then skipWhile p bs (i + 1) else return i
  else return i
termination_by bs.length - i

/-- The position after a number that has got to a position. A sign belongs to it right after an exponent mark. -/
def numberEnd (bs : List UInt8) (i : Nat) : Bytewise Nat :=
  if i < bs.length then do
    let c := Char.ofUInt8 (← byte bs i)
    if c.isDigit || c = '.' || isExponentMark c then numberEnd bs (i + 1)
    else if c = '+' || c = '-' then do
      let last := Char.ofUInt8 (← byte bs (← before i))
      if isExponentMark last then numberEnd bs (i + 1) else return i
    else return i
  else return i
termination_by bs.length - i

/-- The text that starts with a quote at a position. -/
def readText (expression : String) (start : Nat) (quote : UInt8) : Bytewise (TokenKind × Nat) := do
  let bs := bytes expression
  let i ← skipWhile (· ≠ quote) bs (start + 1)
  if i < bs.length then
    let body ← span expression (start + 1) (← before (i + 1))
    return (.text body, i + 1)
  else throw (.malformed (← span expression start bs.length) .unterminatedText)

/-- The number that starts at a position. -/
def readNumber (expression : String) (start : Nat) : Bytewise (TokenKind × Nat) := do
  let stop ← numberEnd (bytes expression) (start + 1)
  let literal ← span expression start stop
  match Decimal.toFloat? literal.toList with
  | some x => return (.number x, stop)
  | none => throw (.malformed literal .badNumber)

/-- The name that starts at a position. -/
def readName (expression : String) (start : Nat) : Bytewise (TokenKind × Nat) := do
  let stop ← skipWhile (fun b => isNameChar (Char.ofUInt8 b)) (bytes expression) (start + 1)
  return (.name (← span expression start stop), stop)

/-- The failure at a character that starts no token. -/
def stray (expression : String) (start : Nat) : Bytewise (TokenKind × Nat) := do
  let rest ← span expression start (bytes expression).length
  throw (.malformed (String.singleton (rest.toList.headD '?')) (.strayCharacter expression))

/-- The token that starts at a position, and the position after it. -/
def read (expression : String) (start : Nat) : Bytewise (TokenKind × Nat) := do
  let bs := bytes expression
  let b ← byte bs start
  let c := Char.ofUInt8 b
  match symbol? c (bs[start + 1]?.map Char.ofUInt8) with
  | some (kind, more) => return (kind, start + 1 + more)
  | none =>
    if c = '\'' ∨ c = '"' then readText expression start b
    else if c.isDigit ∨ c = '.' then readNumber expression start
    else if c.isAlpha ∨ c = '_' then readName expression start
    else stray expression start

/-- The tokens of an expression from a position on. -/
def scanFrom (expression : String) (i : Nat) : Bytewise (List Token) :=
  if i < (bytes expression).length then do
    let b ← byte (bytes expression) i
    if isSeparator (Char.ofUInt8 b) then scanFrom expression (i + 1)
    else do
      let (kind, stop) ← read expression i
      if i < stop then do
        let tokens ← scanFrom expression stop
        return ⟨kind, i, stop⟩ :: tokens
      else halt (.stuck i)
  else return []
termination_by (bytes expression).length - i

/-- The tokens of an expression. -/
def scan (expression : String) : Bytewise (List Token) := scanFrom expression 0

end Bytewise

end NamedRows
