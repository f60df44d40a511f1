import NamedRows.Json.Basic
import NamedRows.Json.Text

/-!
# Reading JSON documents

A document is one value with blanks around it (`Json.parse?`). Blanks are spaces, tabs and line ends; numbers have no
leading zeros and a digit on either side of a point; nothing may follow the last item of a list. A reader returns what
it has read and a rest that is shorter than its input (`Reader`), so lists end by length, and values nested in one
another are bounded by the length of the document.
-/

namespace NamedRows.Json

/-- What a reader leaves of its input. -/
abbrev Rest (cs : List Char) := { rest : List Char // rest.length < cs.length }

/-- A reader of values. -/
abbrev Reader := (cs : List Char) → Option (Json × Rest cs)

/-- The characters that may stand between the parts of a document. -/
def isBlank (c : Char) : Bool := c = ' ' || c = '\t' || c = '\n' || c = '\r'

/-- The text from the first character that is not blank. -/
def skip (cs : List Char) : List Char := cs.dropWhile isBlank

theorem length_skip_le (cs : List Char) : (skip cs).length ≤ cs.length :=
  (List.dropWhile_suffix isBlank).length_le

/-- A character after blanks. -/
def mark (c : Char) (cs : List Char) : Option (Rest cs) :=
  match h : skip cs with
  | [] => none
  | d :: rest =>
    if d = c then some ⟨rest, by have := length_skip_le cs; rw [h] at this; exact this⟩ else none

/-- The rest after a word. -/
def word (w : List Char) (cs : List Char) : Option (List Char) :=
  if w.isPrefixOf cs then some (cs.drop w.length) else none

/-- At least one digit, and the rest. -/
def digits? (cs : List Char) : Option (List Char × List Char) :=
  let ds := cs.takeWhile Char.isDigit
  if ds = [] then none else some (ds, cs.drop ds.length)

/-- The digits before the point: a zero, or digits without a leading zero. -/
def whole? : List Char → Option (List Char × List Char)
  | '0' :: rest => if rest.head?.any Char.isDigit then none else some (['0'], rest)
  | cs => digits? cs

/-- The point and the digits after it, if there is a point. -/
def fraction? : List Char → Option (List Char × List Char)
  | '.' :: rest => (digits? rest).map fun p => ('.' :: p.1, p.2)
  | cs => some ([], cs)

/-- A sign, if there is one of those allowed. -/
def sign (allowed : List Char) : List Char → List Char × List Char
  | c :: rest => if allowed.contains c then ([c], rest) else ([], c :: rest)
  | [] => ([], [])

/-- The exponent, if there is one. -/
def exponent? : List Char → Option (List Char × List Char)
  | c :: rest =>
    if c = 'e' ∨ c = 'E' then do
      let (s, rest) := sign ['+', '-'] rest
      let (ds, rest) ← digits? rest
      return (c :: s ++ ds, rest)
    else some ([], c :: rest)
  | [] => some ([], [])

/-- The literal of a number, and the rest. -/
def number? (cs : List Char) : Option (List Char × List Char) := do
  let (s, rest) := sign ['-'] cs
  let (i, rest) ← whole? rest
  let (f, rest) ← fraction? rest
  let (e, rest) ← exponent? rest
  return (s ++ i ++ f ++ e, rest)

/-- A value and its rest, if that is shorter than the input. -/
def shorter (cs : List Char) (value : Json) (rest : List Char) : Option (Json × Rest cs) :=
  if h : rest.length < cs.length then some (value, ⟨rest, h⟩) else none

/-- A value that holds no others. -/
def scalar (cs : List Char) : Option (Json × Rest cs) :=
  match cs with
  | '"' :: rest => do
    let (codes, after) ← readCodes rest
    shorter ('"' :: rest) (.string ((ofCodes codes).map String.ofList)) after
  | 'n' :: rest => do shorter ('n' :: rest) .null (← word ['u', 'l', 'l'] rest)
  | 't' :: rest => do shorter ('t' :: rest) (.bool true) (← word ['r', 'u', 'e'] rest)
  | 'f' :: rest => do shorter ('f' :: rest) (.bool false) (← word ['a', 'l', 's', 'e'] rest)
  | cs => do
    let (literal, after) ← number? cs
    shorter cs (.number literal) after

/-- The items of an array from one that has to be there, and the closing bracket. -/
def items (inner : Reader) (cs : List Char) : Option (List Json × Rest cs) :=
  match inner cs with
  | none => none
  | some (value, ⟨rest, h⟩) =>
    match mark ',' rest with
    | some ⟨rest', h'⟩ =>
      match items inner rest' with
      | some (values, ⟨after, h''⟩) => some (value :: values, ⟨after, by omega⟩)
      | none => none
    | none =>
      match mark ']' rest with
      | some ⟨after, h'⟩ => some ([value], ⟨after, by omega⟩)
      | none => none
termination_by cs.length
decreasing_by omega

/-- The name of a member and the colon after it. -/
def memberName (cs : List Char) : Option (Option String × Rest cs) := do
  let ⟨rest, h⟩ ← mark '"' cs
  match hc : readCodes rest with
  | none => none
  | some (codes, after) => do
    let ⟨after', h'⟩ ← mark ':' after
    return ((ofCodes codes).map String.ofList, ⟨after', by have := length_of_readCodes hc; omega⟩)

/-- The members of an object from one that has to be there, and the closing brace. -/
def members (inner : Reader) (cs : List Char) : Option (List (Option String × Json) × Rest cs) :=
  match memberName cs with
  | none => none
  | some (name, ⟨start, hn⟩) =>
    match inner start with
    | none => none
    | some (value, ⟨rest, h⟩) =>
      match mark ',' rest with
      | some ⟨rest', h'⟩ =>
        match members inner rest' with
        | some (more, ⟨after, h''⟩) => some ((name, value) :: more, ⟨after, by omega⟩)
        | none => none
      | none =>
        match mark '\x7d' rest with
        | some ⟨after, h'⟩ => some ([(name, value)], ⟨after, by omega⟩)
        | none => none
termination_by cs.length
decreasing_by omega

/-- An array, an object or a value that holds no others, given how the values inside are read. -/
def form (inner : Reader) : Reader
  | '[' :: rest =>
    match mark ']' rest with
    | some ⟨after, h⟩ => some (.array [], ⟨after, by simp only [List.length_cons]; omega⟩)
    | none => (items inner rest).map fun ⟨values, after, h⟩ =>
      (.array values, ⟨after, by simp only [List.length_cons]; omega⟩)
  | '\x7b' :: rest =>
    match mark '\x7d' rest with
    | some ⟨after, h⟩ => some (.object [], ⟨after, by simp only [List.length_cons]; omega⟩)
    | none => (members inner rest).map fun ⟨entries, after, h⟩ =>
      (.object entries, ⟨after, by simp only [List.length_cons]; omega⟩)
  | cs => scalar cs

/-- A value after blanks, with at most `depth` values open inside one another. -/
def value : (depth : Nat) → Reader
  | 0 => fun _ => none
  | depth + 1 => fun cs =>
    (form (value depth) (skip cs)).map fun ⟨v, rest, h⟩ => (v, ⟨rest, by have := length_skip_le cs; omega⟩)

/-- Reads a document. -/
def parse? (text : String) : Option Json :=
  let cs := text.toList
  match value (cs.length + 1) cs with
  | some (v, ⟨rest, _⟩) => if skip rest = [] then some v else none
  | none => none

end NamedRows.Json
