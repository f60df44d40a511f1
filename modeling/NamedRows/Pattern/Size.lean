import NamedRows.Pattern.Plan
import NamedRows.Unicode.Encoding
import Std.Data.HashMap

/-!
# The size of machines

How much room the machines of a pattern take (`Plan.machineSize`). A pattern has two machines over the bytes of the
text, one that reads it from its start and one that reads it from its end; a pattern is accepted only if each of them
fits in ten mebibytes (`Plan.fits`). A state takes 32 bytes, a choice of the next byte 8 for each of its ranges, and a
choice of the next state 4 for each of the states to choose from.
-/

namespace NamedRows.Pattern

open Unicode

/-- The way a machine reads the text. -/
inductive Direction
  | forward
  | backward
  deriving DecidableEq

/-- The bytes of a state. -/
def stateSize : Nat := 32

/-- The bytes of one range of bytes in a state with several. -/
def rangeSize : Nat := 8

/-- The bytes of one of the states that a state chooses from. -/
def choiceSize : Nat := 4

/-- The bytes that each machine may take: ten mebibytes. -/
def maxMachineSize : Nat := 10 * 1024 * 1024

/-! ## Sets -/

/-- The states of a tree that have been built: a state for each list of ranges with what comes after them. -/
structure NodePool where
  ids : Std.HashMap (List (ByteRange × Nat)) Nat := ∅
  size : Nat := 0

/-- Sequences by their first range; those with the same one stand next to each other. -/
def groupByHead : List (List ByteRange) → List (ByteRange × List (List ByteRange))
  | [] => []
  | [] :: rest => groupByHead rest
  | (r :: tail) :: rest =>
    match groupByHead rest with
    | [] => [(r, [tail])]
    | (r', tails) :: groups => if r = r' then (r, tail :: tails) :: groups else (r, [tail]) :: (r', tails) :: groups

/-- The state that reads some byte sequences forward, all of the given length at most. States with the same ranges and
the same states after them are one state, and zero stands for the state after the last byte. -/
def shareNodes : Nat → List (List ByteRange) → NodePool → Nat × NodePool
  | 0, _, pool => (0, pool)
  | n + 1, sequences, pool =>
    let (key, pool) := (groupByHead sequences).foldl
      (fun (key, pool) (r, tails) =>
        if tails.all (·.isEmpty) then ((r, 0) :: key, pool)
        else
          let (next, pool) := shareNodes n tails pool
          ((r, next) :: key, pool))
      (([] : List (ByteRange × Nat)), pool)
    match pool.ids[key]? with
    | some id => (id, pool)
    | none =>
      let id := pool.ids.size + 1
      (id, { ids := pool.ids.insert key id, size := pool.size + stateSize + rangeSize * key.length })

/-- The number of places where a sequence differs from the one before, from the first such place on. -/
def newPlaces : List ByteRange → List ByteRange → Nat
  | r :: rest, s :: before => if r = s then newPlaces rest before else rest.length + 1
  | rest, _ => rest.length

/-- The number of different beginnings of sequences in order. -/
def countBeginnings (before : List ByteRange) : List (List ByteRange) → Nat
  | [] => 0
  | s :: rest => newPlaces s before + countBeginnings s rest

/-- The part of a machine that reads one character of a set. -/
def setSize (d : Direction) (t : RangeTable) : Nat :=
  let ranges := t.ranges
  if ranges.all fun r => r.2 < 128 then 2 * stateSize + rangeSize * ranges.length
  else
    let sequences := byteSequences t
    match d with
    | .forward => stateSize + (shareNodes 4 sequences {}).2.size
    | .backward =>
      2 * stateSize + choiceSize * sequences.length + stateSize * countBeginnings [] sequences

/-! ## Choices between literals -/

/-- Lists of words that stand between words that have ended. -/
def betweenEnds : List (List Nat) → List (List (List Nat))
  | [] => [[]]
  | [] :: words => [] :: betweenEnds words
  | word :: words =>
    match betweenEnds words with
    | [] => [[word]]
    | chunk :: chunks => (word :: chunk) :: chunks

/-- What is left of the words that begin with a byte. -/
def wordsAfter (b : Nat) (words : List (List Nat)) : List (List Nat) :=
  words.filterMap fun word => if word.head? = some b then some word.tail else none

/-- The part of a machine that chooses between words of the given length at most, all at one place of a tree. Words are
tried in their order: where one ends, those before it and those after it have states of their own. -/
def wordTreeSize : Nat → List (List Nat) → Nat
  | 0, _ => 0
  | n + 1, words =>
    if words.all (·.isEmpty) then 0
    else
      let words := if words.head? = some [] then [] :: words.dropWhile (·.isEmpty) else words
      let chunks := betweenEnds words
      let choices := (chunks.filter (!·.isEmpty)).length + (chunks.length - 1)
      chunks.foldl
        (fun size chunk =>
          let bytes := (chunk.filterMap (·.head?)).eraseDups
          let own := match bytes with
            | [] => 0
            | [_] => stateSize
            | bytes => stateSize + rangeSize * bytes.length
          bytes.foldl (fun size b => size + wordTreeSize n (wordsAfter b chunk)) (size + own))
        (stateSize + choiceSize * choices)

/-- The texts of literals as bytes in the order they are read, if all the plans are such. -/
def words? (d : Direction) : List Plan → Option (List (List Nat))
  | [] => some []
  | .literal s :: ps =>
    let bytes := s.flatMap utf8
    (words? d ps).map ((if d = .forward then bytes else bytes.reverse) :: ·)
  | _ => none

/-- The part of a machine that chooses between the words. -/
def wordsSize (words : List (List Nat)) : Nat :=
  stateSize + wordTreeSize (words.foldl (fun n word => max n word.length) 0) words

/-! ## Plans -/

/-- The size of a part of a machine, and whether it ends in a choice of the next state. -/
structure Extent where
  size : Nat
  endsInChoice : Bool := false

namespace Extent

/-- What it takes to go on after the part. -/
def link (e : Extent) : Nat := if e.endsInChoice then choiceSize else 0

/-- Parts one after another, in the order they are read. -/
def chain : List Extent → Extent
  | [] => { size := stateSize }
  | [e] => e
  | e :: es =>
    let rest := chain es
    { rest with size := e.size + e.link + rest.size }

/-- A number of copies. -/
def replicate (e : Extent) : Nat → Extent
  | 0 => { size := stateSize }
  | n + 1 => { e with size := (n + 1) * e.size + n * e.link }

/-- A choice between parts. -/
def choice (es : List Extent) : Extent :=
  { size := es.foldl (fun size e => size + choiceSize + e.size + e.link) (2 * stateSize) }

/-- Between `least` and `most` copies of a part, which may or may not match the empty text. -/
def times (e : Extent) (readsSome : Bool) (least : Nat) (most : Option Nat) : Extent :=
  match least, most with
  | 0, some 1 => { size := 2 * stateSize + 2 * choiceSize + e.size + e.link }
  | 0, none =>
    if readsSome then { size := stateSize + choiceSize + e.size + e.link, endsInChoice := true }
    else { size := e.size + e.link + 3 * stateSize + 4 * choiceSize }
  | least, none =>
    { size := (e.replicate least).size + e.link + stateSize + choiceSize, endsInChoice := true }
  | least, some most =>
    let first := e.replicate least
    if least = most then first
    else
      { size := first.size + first.link + stateSize
          + (most - least) * (stateSize + 2 * choiceSize + e.size + e.link) }

end Extent

namespace Plan

mutual

/-- The least number of characters that a plan matches, by its form; none if a part matches nothing. -/
def leastLength : Plan → Option Nat
  | empty => some 0
  | literal s => some s.length
  | set t => if t.turns.isEmpty then none else some 1
  | look _ => some 0
  | group a => leastLength a
  | times a least _ _ => (leastLength a).map (· * least)
  | seq ps => (leastLengths ps).map fun ns => ns.foldl (· + ·) 0
  | alt ps => (leastLengths ps).map fun ns => ns.foldl min (ns.headD 0)

/-- The same for all plans of a list. -/
def leastLengths : List Plan → Option (List Nat)
  | [] => some []
  | p :: ps =>
    match leastLength p, leastLengths ps with
    | some n, some ns => some (n :: ns)
    | _, _ => none

end

mutual

/-- The part of a machine that reads a plan. -/
def extent (d : Direction) : Plan → Extent
  | empty => { size := stateSize }
  | literal s => { size := stateSize * (s.flatMap utf8).length }
  | set t => { size := setSize d t }
  | look _ => { size := stateSize }
  | group a =>
    let e := extent d a
    if d = .forward then { size := 2 * stateSize + e.size + e.link } else e
  | times a least most _ => (extent d a).times ((leastLength a).any (0 < ·)) least most
  | seq ps =>
    let es := extents d ps
    Extent.chain (if d = .forward then es else es.reverse)
  | alt ps =>
    match words? d ps with
    | some words => { size := wordsSize words }
    | none => Extent.choice (extents d ps)

/-- The same for all plans of a list. -/
def extents (d : Direction) : List Plan → List Extent
  | [] => []
  | p :: ps => extent d p :: extents d ps

end

mutual

/-- Whether every match begins with a test, by the form of the plan, or ends with it if the text is read backward. -/
def opensWith (d : Direction) (l : Look) : Plan → Bool
  | empty => false
  | literal _ => false
  | set _ => false
  | look m => m = l
  | group a => opensWith d l a
  | times a least _ _ => 0 < least && opensWith d l a
  | seq ps => sequenceOpensWith d l ps
  | alt ps => allOpenWith d l ps

/-- Whether a sequence begins with a test. -/
def sequenceOpensWith (d : Direction) (l : Look) : List Plan → Bool
  | [] => false
  | p :: ps =>
    match d with
    | .forward => opensWith d l p || (p.onlyEmpty && sequenceOpensWith d l ps)
    | .backward => sequenceOpensWith d l ps || (allOnlyEmpty ps && opensWith d l p)

/-- Whether all plans of a list begin with a test. -/
def allOpenWith (d : Direction) (l : Look) : List Plan → Bool
  | [] => true
  | p :: ps => opensWith d l p && allOpenWith d l ps

end

/-- The size of the machine that reads a plan in one direction: what comes before a match, the match, which is
remembered as a whole by the machine that reads forward, and the state that accepts. Nothing can come before a match
that begins at the end of the text where reading begins. -/
def machineSize (d : Direction) (p : Plan) : Nat :=
  let e := p.extent d
  let anchored := p.opensWith d (if d = .forward then .textStart else .textEnd)
  let before := if anchored then stateSize else 3 * stateSize + rangeSize + 2 * choiceSize
  let marks := if d = .forward then 2 * stateSize else 0
  before + marks + e.size + e.link + stateSize

/-- Whether both machines of a plan are small enough. -/
def fits (p : Plan) : Bool :=
  p.machineSize .forward ≤ maxMachineSize && p.machineSize .backward ≤ maxMachineSize

end Plan

end NamedRows.Pattern
