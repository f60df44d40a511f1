import NamedRows.Json.Text

/-!
# Log lines

A log line is a JSON object on a line of its own: the event, its severity, then further fields in the order of their
keys (`Line.render`). Lines below a least severity are dropped (`Line.written`); of the others, those from warnings on
go to the error stream (`Severity.stream`).
-/

namespace NamedRows.Log

/-- How much a line matters, from the least to the most. -/
inductive Severity
  | trace | info | warn | error | fatal
  deriving DecidableEq, Repr

/-- Where a line is written. -/
inductive Stream
  | out | err
  deriving DecidableEq, Repr

namespace Severity

def rank : Severity → Nat
  | trace => 0
  | info => 1
  | warn => 2
  | error => 3
  | fatal => 4

instance : LE Severity := ⟨fun a b => a.rank ≤ b.rank⟩

instance (a b : Severity) : Decidable (a ≤ b) := inferInstanceAs (Decidable (a.rank ≤ b.rank))

def name : Severity → String
  | trace => "TRACE"
  | info => "INFO"
  | warn => "WARN"
  | error => "ERROR"
  | fatal => "FATAL"

/-- All severities, from the least. -/
def all : List Severity := [trace, info, warn, error, fatal]

/-- The severity of a name. -/
def named? (name : String) : Option Severity := all.find? fun s => s.name = name

/-- The stream of the lines of a severity. -/
def stream (s : Severity) : Stream := if warn ≤ s then .err else .out

end Severity

/-- A line of the log. -/
structure Line where
  severity : Severity
  event : String
  /-- Further keys and values, in any order; keys may repeat. -/
  fields : List (String × String) := []
  deriving DecidableEq, Repr

/-- The letters of the escapes in log lines. -/
def letterFor? (c : Char) : Option Char := if c = '\x08' ∨ c = '\x0c' then none else Json.letterFor? c

/-- The control characters: those below the space, the delete character, and the 32 codes after it. -/
def isControl (c : Char) : Bool := c.toNat < 0x20 || (0x7F ≤ c.toNat && c.toNat < 0xA0)

/-- The escapes in log lines: every control character that has no letter is written by its code. -/
def escaping : Json.Escaping := ⟨letterFor?, isControl⟩

namespace Line

/-- The fields in the order of their keys; fields of one key stay in order. -/
def sorted (fields : List (String × String)) : List (String × String) :=
  fields.mergeSort fun a b => decide (a.1 ≤ b.1)

/-- One member of the object. -/
def member (key value : String) : List Char := escaping.quoted key ++ ':' :: escaping.quoted value

/-- All members of the object, in order. -/
def members (line : Line) : List (String × String) :=
  ("event", line.event) :: ("severity", line.severity.name) :: sorted line.fields

/-- The text of a line, with the line end. -/
def render (line : Line) : String :=
  let texts := line.members.map fun m => member m.1 m.2
  String.ofList ('\x7b' :: List.intercalate [','] texts ++ ['\x7d', '\n'])

/-- Whether lines of a severity are written at all, given the least one that is. -/
def isWritten (least : Severity) (line : Line) : Bool := least ≤ line.severity

/-- What is written to a stream for a line. -/
def written (least : Severity) (stream : Stream) (line : Line) : String :=
  if line.isWritten least ∧ line.severity.stream = stream then line.render else ""

end Line

end NamedRows.Log
