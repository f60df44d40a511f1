import NamedRows.Pattern.Reader
import NamedRows.Pattern.Regex

/-!
# Escapes and bracketed classes

What may follow a backslash in a pattern (`readEscape`), and the sets written in brackets (`readClass`): characters,
ranges, properties and nested brackets next to each other form a union, and `&&`, `--` and `~~` combine unions from left
to right. Every reader also reports how deeply the class nests.
-/

namespace NamedRows.Pattern

/-- What an escape stands for. -/
inductive Escape
  /-- A character, and whether it was given by two hexadecimal digits. -/
  | letter (c : Char) (byte : Bool)
  | set (s : CharSet)
  | look (l : Look)

/-- The characters with a meaning of their own somewhere in a pattern. -/
def isMeta (c : Char) : Bool :=
  ['\\', '.', '+', '*', '?', '(', ')', '|', '[', ']', '\x7b', '\x7d', '^', '$', '#', '&', '-', '~'].contains c

/-- The characters a backslash may stand before without giving them a meaning. -/
def isEscapable (c : Char) : Bool :=
  isMeta c || (c.toNat < 128 && !c.isAlphanum && c ≠ '<' && c ≠ '>')

/-- The word characters under the given flags. -/
def Flags.word (flags : Flags) : CharSet := if flags.unicode then .word else .asciiWord

/-- The classes of digits, blanks and word characters, or their complements; without classes beyond ASCII there are no
complements. -/
def shorthand (flags : Flags) (letter : Char) (negated : Bool) : Option CharSet :=
  let s := match letter with
    | 'd' => if flags.unicode then .property (.category "nd") else .range '0' '9'
    | 's' =>
      if flags.unicode then .property (.binary "whitespace")
      else .ofChars ['\t', '\n', '\x0b', '\x0c', '\r', ' ']
    | _ => flags.word
  if !negated then some s else if flags.unicode then some (.compl s) else none

/-- The letters and hyphens at the start of a text, with blanks between them where the flags allow it. -/
def boundaryLetters (flags : Flags) (cs : List Char) : List Char × List Char :=
  match cs with
  | [] => ([], [])
  | c :: rest =>
    if c.isAlpha || c = '-' then
      let (letters, after) := boundaryLetters flags (skipBlanks flags rest)
      (c :: letters, after)
    else ([], c :: rest)
termination_by cs.length
decreasing_by exact Nat.lt_succ_of_le (length_skipBlanks_le flags rest)

/-- A word boundary after `\b`: a plain one, or one of the kinds that are named in braces. Braces around anything but
letters are left to be read as a count. -/
def readBoundary (flags : Flags) (cs : List Char) : Option (Look × List Char) :=
  match cs with
  | '\x7b' :: inner =>
    match skipBlanks flags inner with
    | [] => none
    | c :: more =>
      if c.isAlpha || c = '-' then
        match boundaryLetters flags (c :: more) with
        | (letters, '\x7d' :: rest) =>
          match String.ofList letters with
          | "start" => some (.wordStart flags.word, rest)
          | "end" => some (.wordEnd flags.word, rest)
          | "start-half" => some (.wordStartHalf flags.word, rest)
          | "end-half" => some (.wordEndHalf flags.word, rest)
          | _ => none
        | _ => none
      else some (.boundary flags.word, cs)
  | _ => some (.boundary flags.word, cs)

/-- The controls that are written as a letter. -/
def controlLetter? : Char → Option Char
  | 'a' => some '\x07'
  | 'f' => some '\x0c'
  | 't' => some '\t'
  | 'n' => some '\n'
  | 'r' => some '\r'
  | 'v' => some '\x0b'
  | _ => none

/-- What follows a backslash. References to groups are refused. -/
def readEscape (flags : Flags) : List Char → Option (Escape × List Char)
  | [] => none
  | c :: rest =>
    if c.isDigit then none
    else if c = 'x' then do
      let braced := (skipBlanks flags rest).head? = some '\x7b'
      let (d, after) ← readCode flags 2 rest
      return (.letter d !braced, after)
    else if c = 'u' ∨ c = 'U' then do
      let (d, after) ← readCode flags (if c = 'u' then 4 else 8) rest
      return (.letter d false, after)
    else if c = 'p' ∨ c = 'P' then do
      let (s, after) ← readProperty flags (c = 'P') rest
      return (.set s, after)
    else if "dswDSW".contains c then do
      return (.set (← shorthand flags c.toLower c.isUpper), rest)
    else if isEscapable c then some (.letter c false, rest)
    else
      match controlLetter? c with
      | some d => some (.letter d false, rest)
      | none =>
        match c with
        | 'A' => some (.look .textStart, rest)
        | 'z' => some (.look .textEnd, rest)
        | 'b' => (readBoundary flags rest).map fun (l, after) => (.look l, after)
        | 'B' => some (.look (.notBoundary flags.word), rest)
        | '<' => some (.look (.wordStart flags.word), rest)
        | '>' => some (.look (.wordEnd flags.word), rest)
        | _ => none

/-- The set closed under case where the flags say so. -/
def Flags.close (flags : Flags) (s : CharSet) : CharSet :=
  if !flags.anyCase then s else if flags.unicode then .anyCase s else .anyAsciiCase s

/-- The operators between unions in brackets. -/
inductive ClassOp
  | inter | diff | symmDiff

/-- Combines two sets. -/
def ClassOp.apply : ClassOp → CharSet → CharSet → CharSet
  | inter => .inter
  | diff => .diff
  | symmDiff => .symmDiff

/-- A pair of brackets that is being read: what stood before the last operator, and the union after it. -/
structure ClassLevel where
  negated : Bool
  items : List CharSet := []
  depth : Nat := 0
  pending : Option (ClassOp × CharSet × Nat) := none

namespace ClassLevel

/-- One more member of the union. -/
def push (level : ClassLevel) (s : CharSet) (depth : Nat) : ClassLevel :=
  { level with items := s :: level.items, depth := max level.depth depth }

/-- The set read so far with its depth. -/
def settle (flags : Flags) (level : ClassLevel) : CharSet × Nat :=
  let s := CharSet.unions level.items.reverse
  let d := if 1 < level.items.length then level.depth + 1 else level.depth
  match level.pending with
  | none => (s, d)
  | some (op, lhs, d') => (op.apply (flags.close lhs) (flags.close s), max d d' + 1)

/-- The level after an operator. -/
def operator (flags : Flags) (level : ClassLevel) (op : ClassOp) : ClassLevel :=
  let (s, d) := level.settle flags
  { negated := level.negated, pending := some (op, s, d) }

/-- The set of the whole brackets. Without classes beyond ASCII it may not be negated. -/
def finish (flags : Flags) (level : ClassLevel) : Option (CharSet × Nat) :=
  let (s, d) := level.settle flags
  let s := flags.close s
  if !level.negated then some (s, d + 1) else if flags.unicode then some (.compl s, d + 1) else none

end ClassLevel

/-- Hyphens at the start of brackets stand for themselves. -/
def leadingHyphens (flags : Flags) (level : ClassLevel) (cs : List Char) : ClassLevel × List Char :=
  match cs with
  | [] => (level, [])
  | c :: rest =>
    if c = '-' then
      leadingHyphens flags (level.push (.single '-') 0) (skipBlanks flags rest)
    else (level, c :: rest)
termination_by cs.length
decreasing_by exact Nat.lt_succ_of_le (length_skipBlanks_le flags rest)

/-- The start of brackets, after the opening one: a negation, hyphens, and a closing bracket that stands for itself. -/
def openClass (flags : Flags) (cs : List Char) : ClassLevel × List Char :=
  let cs := skipBlanks flags cs
  let negated := cs.head? = some '^'
  let cs := if negated then skipBlanks flags (cs.drop 1) else cs
  let (level, cs) := leadingHyphens flags { negated := negated } cs
  if level.items.isEmpty && cs.head? = some ']' then
    (level.push (.single ']') 0, skipBlanks flags (cs.drop 1))
  else (level, cs)

/-- A named ASCII set, after an opening bracket inside brackets. -/
def readNamedClass (flags : Flags) : List Char → Option (Option CharSet × List Char)
  | ':' :: cs =>
    let negated := cs.head? = some '^'
    let cs := if negated then cs.drop 1 else cs
    match cs.dropWhile (· ≠ ':') with
    | ':' :: ']' :: rest =>
      match CharSet.asciiNamed.lookup (String.ofList (cs.takeWhile (· ≠ ':'))) with
      | none => none
      | some s =>
        let s := flags.close s
        some (if !negated then some s else if flags.unicode then some (.compl s) else none, rest)
    | _ => none
  | _ => none

/-- One character or escape inside brackets. -/
def readClassItem (flags : Flags) : List Char → Option (Escape × List Char)
  | [] => none
  | c :: rest => if c = '\\' then readEscape flags rest else some (.letter c false, rest)

/-- A character of a class; without classes beyond ASCII it has to be an ASCII one. -/
def classLetter? (flags : Flags) : Escape → Option Char
  | .letter c _ => if flags.unicode || c.toNat < 128 then some c else none
  | _ => none

/-- One member of a union: a character, an escape, or a range. -/
def readClassRange (flags : Flags) (cs : List Char) : Option (CharSet × List Char) := do
  let (first, rest) ← readClassItem flags cs
  match skipBlanks flags rest with
  | [] => none
  | c :: rest =>
    let next := peek flags rest
    if c ≠ '-' ∨ next = some ']' ∨ next = some '-' then
      match first with
      | .set s => return (s, c :: rest)
      | .look _ => none
      | first => return (.single (← classLetter? flags first), c :: rest)
    else
      let lo ← classLetter? flags first
      let (second, rest) ← readClassItem flags (skipBlanks flags rest)
      let hi ← classLetter? flags second
      if lo ≤ hi then return (.range lo hi, rest) else none

/-- Reads on in brackets until they close; the levels in `outer` are around them. -/
def readLevels (flags : Flags) (level : ClassLevel) (outer : List ClassLevel) (cs : List Char) :
    Option ((CharSet × Nat) × List Char) :=
  match skipBlanks flags cs with
  | [] => none
  | c :: rest =>
    let next : Option ((ClassLevel × List ClassLevel) × List Char) :=
      if c = '[' then
        match readNamedClass flags rest with
        | some (some s, rest) => some ((level.push s 0, outer), rest)
        | some (none, _) => none
        | none =>
          let (inner, rest) := openClass flags rest
          some ((inner, level :: outer), rest)
      else if c = '&' ∧ rest.head? = some '&' then some ((level.operator flags .inter, outer), rest.drop 1)
      else if c = '-' ∧ rest.head? = some '-' then some ((level.operator flags .diff, outer), rest.drop 1)
      else if c = '~' ∧ rest.head? = some '~' then some ((level.operator flags .symmDiff, outer), rest.drop 1)
      else (readClassRange flags (c :: rest)).map fun (s, rest) => ((level.push s 0, outer), rest)
    if c = ']' then
      match level.finish flags, outer with
      | none, _ => none
      | some done, [] => some (done, rest)
      | some (s, d), around :: outer =>
        if rest.length < cs.length then readLevels flags (around.push s d) outer rest else none
    else
      match next with
      | none => none
      | some ((level, outer), rest) => if rest.length < cs.length then readLevels flags level outer rest else none
termination_by cs.length

/-- A bracketed class, after its opening bracket. -/
def readClass (flags : Flags) (cs : List Char) : Option ((CharSet × Nat) × List Char) :=
  let (level, rest) := openClass flags cs
  readLevels flags level [] rest

end NamedRows.Pattern
