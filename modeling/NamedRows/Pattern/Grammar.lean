import NamedRows.Pattern.Escape
import NamedRows.Pattern.Size

/-!
# The grammar of patterns

Reading a whole pattern (`Pattern.read?`): alternatives of sequences of characters, classes, groups and tests, each with
repetitions. Groups may set flags for themselves, and a group of flags alone sets them for the rest of the group around
it. The groups that are open are kept on a stack (`State`), and each step consumes at least one character. Patterns that
nest more than `maxDepth` levels are refused, and so are patterns whose machines would be too large (`Plan.fits`).
-/

namespace NamedRows.Pattern

/-- The deepest nesting of a pattern. -/
def maxDepth : Nat := 250

/-- A part of a pattern that has been read. A setting of flags is a part that cannot be repeated. -/
structure Piece where
  regex : Regex
  depth : Nat := 0
  repeatable : Bool := true

/-- One part after another; the parts are given last first. -/
def Piece.sequence : List Piece → Piece
  | [] => { regex := .empty }
  | [p] => p
  | p :: ps =>
    { regex := ps.foldl (fun after q => .seq q.regex after) p.regex
      depth := ps.foldl (fun d q => max d q.depth) p.depth + 1 }

/-- A choice between parts, given last first. -/
def Piece.choice : List Piece → Piece
  | [] => { regex := .empty }
  | [p] => p
  | p :: ps =>
    { regex := ps.foldl (fun after q => .alt q.regex after) p.regex
      depth := ps.foldl (fun d q => max d q.depth) p.depth + 1 }

/-- A group that is open: its finished alternatives and the parts of the current one, both last first, the flags that
hold again after it, and whether it remembers what it matches. -/
structure Level where
  branches : List Piece := []
  items : List Piece := []
  outer : Flags := {}
  remembers : Bool := false

/-- What the group has come to. -/
def Level.close (level : Level) : Piece := Piece.choice (Piece.sequence level.items :: level.branches)

/-- Where the reading of a pattern stands. -/
structure State where
  flags : Flags := {}
  current : Level := {}
  around : List Level := []
  names : List (List Char) := []

namespace State

/-- One more part of the current alternative. -/
def push (s : State) (p : Piece) : State :=
  { s with current := { s.current with items := p :: s.current.items } }

/-- Opens a group that is read under the given flags. -/
def enter (s : State) (flags : Flags) (remembers : Bool) : State :=
  { s with flags := flags, current := { outer := s.flags, remembers }, around := s.current :: s.around }

/-- Closes the innermost group. -/
def leave (s : State) : Option State :=
  match s.around with
  | [] => none
  | level :: around =>
    let p := s.current.close
    let s' : State := { s with flags := s.current.outer, current := level, around := around }
    some (s'.push { regex := .group s.current.remembers p.regex, depth := p.depth + 1 })

/-- Starts the next alternative. -/
def branch (s : State) : State :=
  { s with current :=
    { s.current with branches := Piece.sequence s.current.items :: s.current.branches, items := [] } }

/-- Repeats the last part of the current alternative. -/
def repeatLast (s : State) (least : Nat) (most : Option Nat) (fewFirst : Bool) : Option State :=
  match s.current.items with
  | [] => none
  | p :: items =>
    if p.repeatable then
      let p : Piece := { regex := .times p.regex least most fewFirst, depth := p.depth + 1 }
      some { s with current := { s.current with items := p :: items } }
    else none

end State

/-- The expression for one character. A code given by two hexadecimal digits is a byte where classes do not go beyond
ASCII, and a byte from 128 on is no text. -/
def letterRegex (flags : Flags) (c : Char) (byte : Bool) : Option Regex :=
  if !flags.unicode && byte && 128 ≤ c.toNat then none
  else if flags.unicode || c.toNat < 128 then some (.set (flags.close (.single c)))
  else some (.set (.single c))

/-- The expression for the dot. -/
def dotRegex (flags : Flags) : Option Regex :=
  if !flags.unicode then none
  else if flags.dotAll then some (.set .all)
  else if flags.crlf then some (.set (.compl (.ofChars ['\r', '\n'])))
  else some (.set (.compl (.single '\n')))

/-- Repeats the last part, with few copies first rather than many if a question mark follows, or the other way round. -/
def State.copies (s : State) (least : Nat) (most : Option Nat) : List Char → Option (State × List Char)
  | '?' :: rest => (s.repeatLast least most !s.flags.fewFirst).map (·, rest)
  | rest => (s.repeatLast least most s.flags.fewFirst).map (·, rest)

/-- Reads the opening of a group, after its parenthesis. -/
def readGroup (s : State) (cs : List Char) : Option (State × List Char) :=
  let cs := skipBlanks s.flags cs
  let named (cs : List Char) : Option (State × List Char) := do
    let (name, rest) ← readGroupName cs
    if s.names.contains name then none
    else return ({ s with names := name :: s.names }.enter s.flags true, rest)
  match cs with
  | '?' :: 'P' :: '<' :: cs => named cs
  | '?' :: '<' :: cs => if cs.head? = some '=' ∨ cs.head? = some '!' then none else named cs
  | '?' :: cs => do
    let (items, last, rest) ← readFlags false [] cs
    let flags := items.foldl Flags.apply s.flags
    if last = ':' then return (s.enter flags false, rest)
    else if items.isEmpty then none
    else return ({ s with flags := flags }.push { regex := .empty, repeatable := false }, rest)
  | cs => some (s.enter s.flags true, cs)

/-- Reads the part of a pattern that starts with the character `c`. -/
def step (s : State) (c : Char) (rest : List Char) : Option (State × List Char) :=
  let look (l : Look) : Option (State × List Char) := some (s.push { regex := .look l }, rest)
  match c with
  | '(' => readGroup s rest
  | ')' => s.leave.map (·, rest)
  | '|' => some (s.branch, rest)
  | '[' => (readClass s.flags rest).map fun ((set, depth), rest) => (s.push { regex := .set set, depth }, rest)
  | '?' => s.copies 0 (some 1) rest
  | '*' => s.copies 0 none rest
  | '+' => s.copies 1 none rest
  | '\x7b' => do
    let ((least, most), rest) ← readBounds s.flags rest
    s.copies least most (skipBlanks s.flags rest)
  | '.' => (dotRegex s.flags).map fun r => (s.push { regex := r }, rest)
  | '^' => look (if s.flags.multiLine then .lineStart s.flags.crlf else .textStart)
  | '$' => look (if s.flags.multiLine then .lineEnd s.flags.crlf else .textEnd)
  | '\\' => do
    let (escape, rest) ← readEscape s.flags rest
    let regex ← match escape with
      | .letter d byte => letterRegex s.flags d byte
      | .set set => some (.set set)
      | .look l => some (.look l)
    return (s.push { regex := regex }, rest)
  | c => (letterRegex s.flags c false).map fun r => (s.push { regex := r }, rest)

/-- Reads on to the end of a pattern. -/
def run (s : State) (cs : List Char) : Option State :=
  match skipBlanks s.flags cs with
  | [] => some s
  | c :: rest =>
    match step s c rest with
    | none => none
    | some (s, rest) => if rest.length < cs.length then run s rest else none
termination_by cs.length

/-- The expression of a whole pattern, if it is well formed. -/
def read? (pattern : List Char) : Option Regex := do
  let s ← run {} pattern
  let whole := s.current.close
  if s.around.isEmpty && whole.depth ≤ maxDepth && whole.regex.plan.fits then some whole.regex else none

end NamedRows.Pattern
