import NamedRows.Pattern.CharSet

/-!
# Regular expressions and matching

Regular expressions over sets of characters, with tests of the surroundings of a position (`Regex`). A text is searched
from left to right with the list of the expressions that may still follow (`Regex.search`): at each character every one
of them is replaced by what is left of it after that character (`Regex.after`), and a match is found as soon as one of
them holds of the empty text there (`Regex.holdsEmpty`). A match may begin at any position. What groups remember and
which number of copies comes first makes no difference to whether there is a match.
-/

namespace NamedRows.Pattern

/-- A test of a position by the characters beside it. -/
inductive Look
  | textStart
  | textEnd
  /-- The start of a line; lines may also be taken to end in a carriage return. -/
  | lineStart (crlf : Bool)
  | lineEnd (crlf : Bool)
  /-- Exactly one of the two neighbours belongs to a word. -/
  | boundary (word : CharSet)
  | notBoundary (word : CharSet)
  | wordStart (word : CharSet)
  | wordEnd (word : CharSet)
  | wordStartHalf (word : CharSet)
  | wordEndHalf (word : CharSet)
  deriving DecidableEq, Repr

/-- Whether a test holds between two neighbours; no neighbour means an end of the text. -/
def Look.holds (before after : Option Char) : Look → Bool
  | textStart => before.isNone
  | textEnd => after.isNone
  | lineStart false => before.isNone || before = some '\n'
  | lineStart true => before.isNone || before = some '\n' || (before = some '\r' && after ≠ some '\n')
  | lineEnd false => after.isNone || after = some '\n'
  | lineEnd true => after.isNone || after = some '\r' || (after = some '\n' && before ≠ some '\r')
  | boundary word => before.any word.contains != after.any word.contains
  | notBoundary word => before.any word.contains == after.any word.contains
  | wordStart word => !before.any word.contains && after.any word.contains
  | wordEnd word => before.any word.contains && !after.any word.contains
  | wordStartHalf word => !before.any word.contains
  | wordEndHalf word => !after.any word.contains

/-- Regular expressions. -/
inductive Regex
  | empty
  | set (s : CharSet)
  | look (l : Look)
  | seq (a b : Regex)
  | alt (a b : Regex)
  /-- A part in parentheses, which may remember what it matched. -/
  | group (remembers : Bool) (a : Regex)
  /-- Between `least` and `most` copies in a row, few or many first; no `most` means any number. -/
  | times (a : Regex) (least : Nat) (most : Option Nat) (fewFirst : Bool)
  deriving DecidableEq, Repr

namespace Regex

/-- Whether the empty text between two neighbours matches. -/
def holdsEmpty (before after : Option Char) : Regex → Bool
  | empty => true
  | set _ => false
  | look l => l.holds before after
  | seq a b => a.holdsEmpty before after && b.holdsEmpty before after
  | alt a b => a.holdsEmpty before after || b.holdsEmpty before after
  | group _ a => a.holdsEmpty before after
  | times a least _ _ => least == 0 || a.holdsEmpty before after

/-- One expression after another. -/
def andThen (a b : Regex) : Regex := if a = empty then b else seq a b

/-- What may be left to match after the character `c`, where `before` is the character in front of it. Copies of a
repetition that match nothing at this position may be skipped. -/
def after (before : Option Char) (c : Char) : Regex → List Regex
  | empty => []
  | set s => if s.contains c then [empty] else []
  | look _ => []
  | seq a b =>
    (a.after before c).map (andThen · b) ++ (if a.holdsEmpty before (some c) then b.after before c else [])
  | alt a b => a.after before c ++ b.after before c
  | group _ a => a.after before c
  | times a least most fewFirst =>
    if most = some 0 then []
    else
      let least := if a.holdsEmpty before (some c) then 0 else least - 1
      (a.after before c).map (andThen · (times a least (most.map (· - 1)) fewFirst))

/-- Whether a match of `r` ends somewhere in the text, given the expressions that matches under way may still need. -/
def searchFrom (r : Regex) (pending : List Regex) (before : Option Char) : List Char → Bool
  | [] => (r :: pending).any (·.holdsEmpty before none)
  | c :: rest =>
    let pending := (r :: pending).eraseDups
    pending.any (·.holdsEmpty before (some c)) ||
      searchFrom r (pending.flatMap (·.after before c)) (some c) rest

/-- Whether some part of a text matches. -/
def search (r : Regex) (text : List Char) : Bool := r.searchFrom [] none text

end Regex

end NamedRows.Pattern
