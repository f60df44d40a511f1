import NamedRows.Pattern.Regex

/-!
# Normal forms of expressions

Regular expressions in the form that machines are built from (`Plan`). Sequences and choices are flat, characters in a
row are one literal, choices between characters or between sets are one set, what all branches of a choice begin with
stands in front of it, and repetitions that change nothing are gone. `Regex.plan` builds the form from the parts upward,
by `Plan.concat`, `Plan.choice` and `Plan.copies`.
-/

namespace NamedRows.Pattern

open Unicode

/-- An expression in normal form. -/
inductive Plan
  | empty
  | literal (text : List Char)
  /-- One character of a set. The empty set matches nothing. -/
  | set (members : RangeTable)
  | look (l : Look)
  /-- A part that remembers what it matched. -/
  | group (a : Plan)
  | times (a : Plan) (least : Nat) (most : Option Nat) (fewFirst : Bool)
  | seq (parts : List Plan)
  | alt (branches : List Plan)

namespace Plan

mutual

/-- Whether two plans are the same. No two groups are, because each remembers for itself. -/
def same : Plan → Plan → Bool
  | empty, empty => true
  | literal s, literal t => s == t
  | set s, set t => s == t
  | look l, look m => l == m
  | times a n m few, times b n' m' few' => n == n' && m == m' && few == few' && same a b
  | seq ps, seq qs => sameAll ps qs
  | alt ps, alt qs => sameAll ps qs
  | _, _ => false

/-- Whether two lists hold the same plans. -/
def sameAll : List Plan → List Plan → Bool
  | [], [] => true
  | p :: ps, q :: qs => same p q && sameAll ps qs
  | _, _ => false

end

mutual

/-- Whether a plan matches nothing but the empty text, by its form. -/
def onlyEmpty : Plan → Bool
  | empty => true
  | literal _ => false
  | set _ => false
  | look _ => true
  | group a => onlyEmpty a
  | times a _ _ _ => onlyEmpty a
  | seq ps => allOnlyEmpty ps
  | alt ps => allOnlyEmpty ps

/-- Whether all plans of a list match nothing but the empty text. -/
def allOnlyEmpty : List Plan → Bool
  | [] => true
  | p :: ps => onlyEmpty p && allOnlyEmpty ps

end

/-- The parts of a plan as a sequence. -/
def parts : Plan → List Plan
  | empty => []
  | seq ps => ps
  | p => [p]

/-- The branches of a plan as a choice. -/
def branches : Plan → List Plan
  | alt ps => ps
  | p => [p]

/-- Neighbouring literals become one. -/
def joinLiterals : List Plan → List Plan
  | [] => []
  | literal s :: ps =>
    match joinLiterals ps with
    | literal t :: qs => literal (s ++ t) :: qs
    | qs => literal s :: qs
  | p :: ps => p :: joinLiterals ps

/-- One plan after another. -/
def concat (ps : List Plan) : Plan :=
  match joinLiterals (ps.flatMap parts) with
  | [] => empty
  | [p] => p
  | ps => seq ps

/-- One character of a set; the only character of a set is a literal. -/
def ofSet (t : RangeTable) : Plan :=
  match t.ranges with
  | [(lo, hi)] => if lo = hi then literal [Char.ofNat lo] else set t
  | _ => set t

/-- The characters of literals of one character each, if all the plans are such. -/
def letters? : List Plan → Option (List Nat)
  | [] => some []
  | literal [c] :: ps => (letters? ps).map (c.toNat :: ·)
  | _ => none

/-- The union of sets, if all the plans are such. -/
def sets? : List Plan → Option RangeTable
  | [] => some .empty
  | set t :: ps => (sets? ps).map t.union
  | _ => none

/-- A choice between plans: one set if it is between characters or between sets. -/
def gather (ps : List Plan) : Plan :=
  match ps.flatMap branches with
  | [] => set .empty
  | [p] => p
  | ps =>
    match letters? ps, sets? ps with
    | some ns, _ => ofSet (.ofCodes ns)
    | none, some t => ofSet t
    | none, none => alt ps

/-- The number of plans that two sequences have in common at their start. -/
def commonLength : List Plan → List Plan → Nat
  | p :: ps, q :: qs => if p.same q then commonLength ps qs + 1 else 0
  | _, _ => 0

/-- The parts of sequences, if all the plans are such. -/
def sequences? : List Plan → Option (List (List Plan))
  | [] => some []
  | seq ps :: rest => (sequences? rest).map (ps :: ·)
  | _ => none

/-- What all branches of a choice begin with is put in front of it. -/
def factor (ps : List Plan) : Plan :=
  match sequences? ps with
  | some (first :: others) =>
    let n := others.foldl (fun n qs => min n (commonLength first qs)) first.length
    if n = 0 then alt ps
    else concat (first.take n ++ [gather ((first :: others).map fun qs => concat (qs.drop n))])
  | _ => alt ps

/-- A choice between plans. -/
def choice (ps : List Plan) : Plan :=
  match gather ps with
  | alt qs => factor qs
  | p => p

/-- Copies of a plan in a row. More than one copy of what only matches the empty text makes no difference. -/
def copies (p : Plan) (least : Nat) (most : Option Nat) (fewFirst : Bool) : Plan :=
  let least := if p.onlyEmpty then min least 1 else least
  let most := if p.onlyEmpty then some (min (most.getD 1) 1) else most
  if least = 0 ∧ most = some 0 then empty
  else if least = 1 ∧ most = some 1 then p
  else times p least most fewFirst

end Plan

namespace Regex

/-- Alternatives as the parts of one sequence. -/
def inOne : List (List Plan) → List Plan
  | [parts] => parts
  | alternatives => [Plan.choice (alternatives.map Plan.concat)]

/-- The alternatives of an expression, each as the parts of a sequence. -/
def alternatives : Regex → List (List Plan)
  | empty => [[]]
  | set s => [[.ofSet s.points]]
  | look l => [[.look l]]
  | seq a b => [inOne a.alternatives ++ inOne b.alternatives]
  | alt a b => a.alternatives ++ b.alternatives
  | group remembers a =>
    let p := Plan.choice (a.alternatives.map Plan.concat)
    [[if remembers then .group p else p]]
  | times a least most fewFirst =>
    [[.copies (Plan.choice (a.alternatives.map Plan.concat)) least most fewFirst]]

/-- The normal form of an expression. -/
def plan (r : Regex) : Plan := Plan.choice (r.alternatives.map Plan.concat)

end Regex

end NamedRows.Pattern
