/-!
# Sets of characters as range tables

A set of code points is stored as the ascending list of the points where membership turns over (`RangeTable`), so a
character is in the set exactly when an odd number of those points is at most its code (`RangeTable.contains`). Tables
are written as text: the gaps between consecutive turning points in base 36 (`RangeTable.ofRows`). Sets are combined by
merging their turning points (`RangeTable.combine`), and each set of characters has one table, so equal sets are equal
tables.
-/

namespace NamedRows.Unicode

/-- The value of one base-36 digit. -/
def digitValue (c : Char) : Nat :=
  if c.isDigit then c.toNat - '0'.toNat else c.toNat - 'a'.toNat + 10

/-- The numbers in a text of base-36 numerals separated by single spaces, after the numeral read so far. -/
def numbersFrom (read : Option Nat) : List Char → List Nat
  | [] => read.toList
  | c :: rest =>
    if c = ' ' then read.toList ++ numbersFrom none rest
    else numbersFrom (some (read.getD 0 * 36 + digitValue c)) rest

/-- The numbers written in base 36 on the given rows. -/
def numbers (rows : List String) : List Nat :=
  rows.flatMap fun row => numbersFrom none row.toList

/-- A set of code points: membership starts as false and turns over at each point of the ascending list. -/
structure RangeTable where
  turns : Array Nat
  deriving DecidableEq

namespace RangeTable

/-- Running sums: the turning points whose gaps are given. -/
def turnsOf (last : Nat) : List Nat → List Nat
  | [] => []
  | gap :: gaps => (last + gap) :: turnsOf (last + gap) gaps

/-- The table whose gaps between turning points are written in base 36 on the given rows. -/
def ofRows (rows : List String) : RangeTable := ⟨(turnsOf 0 (numbers rows)).toArray⟩

/-- The number of turning points at most `n` among those at index `lo` and up to `hi`, added to `lo`. -/
def countUpTo (turns : Array Nat) (n lo hi : Nat) : Nat :=
  if h : lo < hi then
    let mid := (lo + hi) / 2
    if (turns[mid]?.getD 0) ≤ n then countUpTo turns n (mid + 1) hi else countUpTo turns n lo mid
  else lo
termination_by hi - lo

/-- Membership of a code point: an odd number of turning points lies at or before it. -/
def hasCode (t : RangeTable) (n : Nat) : Bool :=
  countUpTo t.turns n 0 t.turns.size % 2 == 1

/-- Membership of a character. -/
def contains (t : RangeTable) (c : Char) : Bool := t.hasCode c.toNat

/-- The turning points of a combination of two sets, given their turning points and whether the points before those are
in the first and in the second set. -/
def mergeTurns (f : Bool → Bool → Bool) (a b : List Nat) (x y : Bool) : List Nat :=
  match a, b with
  | [], [] => []
  | p :: ps, [] => turnAt p (f x y != f (!x) y) (mergeTurns f ps [] (!x) y)
  | [], q :: qs => turnAt q (f x y != f x (!y)) (mergeTurns f [] qs x (!y))
  | p :: ps, q :: qs =>
    if p < q then turnAt p (f x y != f (!x) y) (mergeTurns f ps (q :: qs) (!x) y)
    else if q < p then turnAt q (f x y != f x (!y)) (mergeTurns f (p :: ps) qs x (!y))
    else turnAt p (f x y != f (!x) (!y)) (mergeTurns f ps qs (!x) (!y))
termination_by a.length + b.length
decreasing_by all_goals (simp only [List.length_cons, List.length_nil]; omega)
where
  turnAt (p : Nat) (turns : Bool) (rest : List Nat) : List Nat := if turns then p :: rest else rest

/-- The set of the points that are in a combination of two sets; no point may be in it that is in neither. -/
def combine (f : Bool → Bool → Bool) (a b : RangeTable) : RangeTable :=
  ⟨(mergeTurns f a.turns.toList b.turns.toList false false).toArray⟩

/-- The points in one of two sets. -/
def union (a b : RangeTable) : RangeTable := combine (· || ·) a b

/-- The points in both of two sets. -/
def inter (a b : RangeTable) : RangeTable := combine (· && ·) a b

/-- The points of the first set that are not in the second. -/
def diff (a b : RangeTable) : RangeTable := combine (fun x y => x && !y) a b

/-- The points in exactly one of two sets. -/
def symmDiff (a b : RangeTable) : RangeTable := combine (· != ·) a b

/-- The empty set. -/
def empty : RangeTable := ⟨#[]⟩

/-- Every code of a character: all code points but the surrogates. -/
def all : RangeTable := ⟨#[0, 0xD800, 0xE000, 0x110000]⟩

/-- The characters outside a set of characters. -/
def compl (t : RangeTable) : RangeTable := symmDiff all t

/-- The characters between two characters, both included. -/
def interval (lo hi : Char) : RangeTable :=
  if lo ≤ hi then inter all ⟨#[lo.toNat, hi.toNat + 1]⟩ else empty

/-- The turning points of the set of the codes in an ascending list. -/
def runsOf : List Nat → List Nat
  | [] => []
  | n :: ns =>
    match runsOf ns with
    | [] => [n, n + 1]
    | next :: rest =>
      if next = n then next :: rest else if next = n + 1 then n :: rest else n :: (n + 1) :: next :: rest

/-- The set of the codes listed, in any order. -/
def ofCodes (ns : List Nat) : RangeTable := ⟨(runsOf (ns.mergeSort (· ≤ ·))).toArray⟩

/-- The first and last points of the runs between turning points. -/
def rangesOf : List Nat → List (Nat × Nat)
  | lo :: stop :: rest => (lo, stop - 1) :: rangesOf rest
  | _ => []

/-- The runs of consecutive members, in order. -/
def ranges (t : RangeTable) : List (Nat × Nat) := rangesOf t.turns.toList

end RangeTable

/-- A set of characters under all of its names. -/
structure NamedSet where
  names : List String
  points : RangeTable

/-- The set with the given name among several. -/
def NamedSet.find? (sets : List NamedSet) (name : String) : Option NamedSet :=
  sets.find? fun s => s.names.contains name

/-- Membership in the set with the given name; an unknown name stands for the empty set. -/
def NamedSet.holds (sets : List NamedSet) (name : String) (c : Char) : Bool :=
  (find? sets name).any (·.points.contains c)

end NamedRows.Unicode
