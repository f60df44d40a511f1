import NamedRows.Unicode.Age
import NamedRows.Unicode.CaseFold
import NamedRows.Unicode.Category
import NamedRows.Unicode.Property
import NamedRows.Unicode.Script

/-!
# Sets of characters in patterns

Sets are kept as the expressions a pattern builds them from (`CharSet`): ranges and properties, combined by union,
intersection, difference, symmetric difference and complement, and closed under case. Membership (`CharSet.contains`) is
decided from the expression; `CharSet.points` lists the runs of members where a set has to be known as a whole.
-/

namespace NamedRows.Pattern

open Unicode

/-- A property a character can have. Names are in the loose form of the property tables. -/
inductive Property
  | any
  | category (name : String)
  | script (name : String)
  | usedWith (name : String)
  | binary (name : String)
  /-- To have been added by the version of Unicode with the given name, or by an earlier one. -/
  | age (name : String)
  deriving DecidableEq, Repr

/-- Whether a character has a property. -/
def Property.holds (c : Char) : Property → Bool
  | .any => true
  | .category name => NamedSet.holds generalCategories name c
  | .script name => NamedSet.holds scripts name c
  | .usedWith name =>
    match NamedSet.find? scriptExtensions name with
    | some s => s.points.contains c
    | none => NamedSet.holds scripts name c
  | .binary name => NamedSet.holds binaryProperties name c
  | .age name => (agesUpTo name).any (·.points.contains c)

/-- The table of the characters that have a property. -/
def Property.points : Property → RangeTable
  | .any => .all
  | .category name => named generalCategories name
  | .script name => named scripts name
  | .usedWith name =>
    match NamedSet.find? scriptExtensions name with
    | some s => s.points
    | none => named scripts name
  | .binary name => named binaryProperties name
  | .age name => (agesUpTo name).foldl (fun t version => t.union version.points) .empty
where
  named (sets : List NamedSet) (name : String) : RangeTable :=
    ((NamedSet.find? sets name).map (·.points)).getD .empty

/-- A set of characters. -/
inductive CharSet
  | empty
  | range (lo hi : Char)
  | property (p : Property)
  | union (a b : CharSet)
  | inter (a b : CharSet)
  | diff (a b : CharSet)
  | symmDiff (a b : CharSet)
  | compl (a : CharSet)
  /-- The characters that differ from a member only in case. -/
  | anyCase (a : CharSet)
  /-- The same for the ASCII letters alone. -/
  | anyAsciiCase (a : CharSet)
  deriving DecidableEq, Repr

/-- The other case of an ASCII letter. -/
def asciiVariant (c : Char) : Char := if c.isUpper then c.toLower else c.toUpper

namespace CharSet

/-- Membership in a set. -/
def contains : CharSet → Char → Bool
  | empty, _ => false
  | range lo hi, c => lo ≤ c && c ≤ hi
  | property p, c => p.holds c
  | union a b, c => a.contains c || b.contains c
  | inter a b, c => a.contains c && b.contains c
  | diff a b, c => a.contains c && !b.contains c
  | symmDiff a b, c => a.contains c != b.contains c
  | compl a, c => !a.contains c
  | anyCase a, c => a.contains c || (caseVariants c).any fun d => a.contains d
  | anyAsciiCase a, c => a.contains c || a.contains (asciiVariant c)

/-- The table of the members of a set. -/
def points : CharSet → RangeTable
  | empty => .empty
  | range lo hi => .interval lo hi
  | property p => p.points
  | union a b => a.points.union b.points
  | inter a b => a.points.inter b.points
  | diff a b => a.points.diff b.points
  | symmDiff a b => a.points.symmDiff b.points
  | compl a => a.points.compl
  | anyCase a => closeCase a.points
  | anyAsciiCase a => closeAsciiCase a.points

/-- The set of one character. -/
def single (c : Char) : CharSet := range c c

/-- The union of several sets. -/
def unions (sets : List CharSet) : CharSet := sets.foldl union empty

/-- Every character. -/
def all : CharSet := compl empty

/-- The set of the characters listed. -/
def ofChars (cs : List Char) : CharSet := unions (cs.map single)

/-- The characters of words: letters and their marks, digits, joining punctuation and the joiners. -/
def word : CharSet :=
  unions ([Property.binary "alphabetic", .category "mc", .category "me", .category "mn", .category "nd",
    .category "pc", .binary "joincontrol"].map property)

/-- The ASCII characters of words. -/
def asciiWord : CharSet := unions [range '0' '9', range 'A' 'Z', range 'a' 'z', single '_']

/-- The ASCII sets that can be named inside brackets. -/
def asciiNamed : List (String × CharSet) := [
  ("alnum", unions [range '0' '9', range 'A' 'Z', range 'a' 'z']),
  ("alpha", unions [range 'A' 'Z', range 'a' 'z']),
  ("ascii", range '\x00' '\x7f'),
  ("blank", ofChars ['\t', ' ']),
  ("cntrl", unions [range '\x00' '\x1f', single '\x7f']),
  ("digit", range '0' '9'),
  ("graph", range '!' '~'),
  ("lower", range 'a' 'z'),
  ("print", range ' ' '~'),
  ("punct", unions [range '!' '/', range ':' '@', range '[' '\x60', range '\x7b' '~']),
  ("space", ofChars ['\t', '\n', '\x0b', '\x0c', '\r', ' ']),
  ("upper", range 'A' 'Z'),
  ("word", asciiWord),
  ("xdigit", unions [range '0' '9', range 'A' 'F', range 'a' 'f'])]

end CharSet

end NamedRows.Pattern
