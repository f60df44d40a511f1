import NamedRows.Unicode.RangeTable

/-!
# Case variants

Characters that simple case folding identifies in Unicode 16.0. Most come in pairs, and pairs in runs: `pairRuns` lists
for each run its first character, the distance to the partner, how many pairs follow and the step between them;
`largeOrbits` lists the groups of three or more. `caseVariants c` is every other character of the group of `c`, and
`closeCase` adds to a set all characters of the groups it meets.
-/

namespace NamedRows.Unicode

/-- Runs of pairs, four numbers a run: first character, distance to the partner, number of pairs, step. -/
def pairRuns : List Nat := numbers
  ["1t w a 1 24 w 8 2 25 w 3 2 2d w 3 2 5c w g 2 5d w 2 2 5j w 8 2 61 w 3 2 67 5vj 1 1 73 3d 1 1 74 1 o 2 8i",
   "1 3 2 8p 1 8 2 96 1 n 2 ah 1 3 2 ao 5f 1 1 ap 5u 1 1 aq 1 2 2 au 5q 1 1 av 1 1 1 ax 5p 2 1 az 1 1 1 b2",
   "27 1 1 b3 5m 1 1 b4 5n 1 1 b5 1 1 1 b7 5p 1 1 b8 5r 1 1 b9 2p 1 1 ba 5v 1 1 bb 5t 1 1 bc 1 1 1 be 4j 1 1",
   "bf wu9 1 1 bg 5v 1 1 bh 5x 1 1 bi 3m 1 1 bj 5y 1 1 bk 1 3 2 bq 62 1 1 br 1 1 1 bt 62 1 1 bw 1 1 1 by 62",
   "1 1 bz 1 1 1 c1 61 2 1 c3 1 2 2 c7 63 1 1 c8 1 1 1 cc 1 1 1 cf 1k 1 1 ct 1 8 2 da 1 9 2 dw 1 1 1 e0 1 k",
   "2 f6 1 9 2 fu 8bv 1 1 fv 1 1 1 fy 8bs 1 1 fz 8cf 2 1 g1 1 1 1 g4 1x 1 1 g5 1z 1 1 g6 1 5 2 gg 8bj 1 1 gh",
   "8bg 1 1 gi 8bi 1 1 gs wnj 1 1 gx wnf 1 1 h0 wo7 1 1 h1 wmg 1 1 h2 wn8 1 1 h6 wn8 1 1 h7 8af 1 1 h8 wn5 1",
   "1 hd 8al 1 1 hp 89z 1 1 hu wn7 1 1 hz wmi 1 1 il wlx 1 1 im wlu 1 1 og 1 2 2 om 1 1 1 or 3m 3 1 ov 38 1",
   "1 p2 12 1 1 p4 11 3 1 p8 1s 1 1 pa 1r 2 1 pc 5kz 1 1 pd w 2 2 pg w 2 2 pj w 1 1 pn w 3 2 pq w 1 1 pw w 2",
   "1 pz w 2 1 q2 w 2 1 q8 5kj 1 1 r3 8 1 1 rc 1 c 2 s2 7 1 1 s7 1 1 1 sa 1 1 1 sg 28 g 1 sw w 2 1 sz w 7 2",
   "t2 w 4 2 tc w 1 1 tf w 7 1 tn w 5 1 v4 1 1 1 v8 1 f 2 wa 1 r 2 xs f 1 1 xt 1 7 2 y8 1 1c 2 10x 1c 12 1",
   "3a8 5ls 12 1 3bb 5ls 1 1 3bh 5ls 1 1 3bk 2bk 17 1 3ct 2bk 3 1 3vk tzk 28 1 3xs 8 6 1 5mx 1 1 1 5tl r9g 1",
   "1 5tp 2xy 1 1 5u6 raw 1 1 5xc 1 1c 2 602 1 q 2 61s 1 1c 2 64g 8 8 1 64w 8 6 1 65c 8 8 1 65s 8 8 1 668 8",
   "6 1 66p 8 4 2 674 8 8 1 67k 22 2 1 67m 2e 4 1 67q 2s 2 1 67s 3k 2 1 67u 34 2 1 67w 3i 2 1 680 8 8 1 68g",
   "8 8 1 68w 8 8 1 69c 8 2 1 69f 9 1 1 69v 9 1 1 6a8 8 2 1 6ao 8 2 1 6at 7 1 1 6b7 9 1 1 6k2 s 1 1 6lc g g",
   "1 6mb 1 1 1 792 q q 1 8ow 1c 1c 1 8rk 1 1 1 8rr 1 3 2 8s2 1 1 1 8s5 1 1 1 8sg 1 1e 2 8vf 1 2 2 8vm 1 1 1",
   "wu8 1 5 2 wuk 1 h 2 ww0 1 e 2 x0i 1 7 2 x0y 1 v 2 x2x 1 2 2 x32 1 5 2 x3f 1 1 1 x3k 1 2 2 x3o 1c 1 1 x3q",
   "1 a 2 x4j ps 1 1 x4k 1 8 2 x53 1 2 2 x58 1 1 1 x5c 1 1 1 x5i 1 3 2 x6d 1 1 1 1dl1 1 1 1 1ee9 w q 1 1fcw",
   "14 14 1 1fhs 14 10 1 1fn4 13 j 2 1fn5 13 5 2 1fnh 13 7 2 1fnx 13 3 2 1fo5 13 1 1 1h1c 1s 1f 1 1h74 w m 1",
   "1jfk w w 1 20cg w w 1 2olc y y 1"]

/-- Groups of three or more, each given by its size and its members. -/
def largeOrbits : List Nat := numbers
  ["3 23 2z 6ju 3 2b 37 an 3 51 po qk 3 5h 6d 6jv 3 ck cl cm 3 cn co cp 3 cq cr cs 3 dt du dv 4 n9 pl qh 69q",
   "3 pe qa r4 3 ph qd s5 4 pk qg r5 s4 3 pm qi s0 3 ps qo ra 3 pt qp s1 3 pv qq qr 3 py qu r9 3 q1 qx 6jq 3",
   "sy tu 5mo 3 t0 tw 5mp 3 ta u6 5mq 3 td u9 5mr 4 te ua 5ms 5mt 3 tm ui 5mu 3 v6 v7 5mv 3 5mw wui wuj 3",
   "600 601 61n"]

/-- The partner of a character in one of the runs, four numbers a run. -/
def partner? (c : Nat) : List Nat → Option Nat
  | first :: distance :: count :: step :: rest =>
    if first ≤ c ∧ c < first + count * step ∧ (c - first) % step = 0 then some (c + distance)
    else if first + distance ≤ c ∧ c < first + distance + count * step ∧ (c - first - distance) % step = 0 then
      some (c - distance)
    else partner? c rest
  | _ => none

/-- The group of a character among groups given by size and members. -/
def orbit? (c : Nat) : List Nat → List Nat
  | [] => []
  | size :: rest =>
    if (rest.take size).contains c then rest.take size else orbit? c (rest.drop size)
termination_by l => l.length
decreasing_by simp only [List.length_drop, List.length_cons]; omega

/-- The pairs of a list of runs. -/
def pairsOf : List Nat → List (List Nat)
  | first :: distance :: count :: step :: rest =>
    (List.range count).map (fun k => [first + k * step, first + k * step + distance]) ++ pairsOf rest
  | _ => []

/-- The groups of a list that gives the size of each before its members. -/
def orbitsOf : List Nat → List (List Nat)
  | [] => []
  | size :: rest => rest.take size :: orbitsOf (rest.drop size)
termination_by l => l.length
decreasing_by simp only [List.length_drop, List.length_cons]; omega

/-- All groups of characters that simple case folding identifies. -/
def caseOrbits : List (List Nat) := pairsOf pairRuns ++ orbitsOf largeOrbits

/-- The set with every character that differs from a member only in case. -/
def closeCase (t : RangeTable) : RangeTable :=
  t.union (.ofCodes (caseOrbits.filter (·.any t.hasCode)).flatten)

/-- The same for the ASCII letters alone. -/
def closeAsciiCase (t : RangeTable) : RangeTable :=
  let letters := (List.range 26).map fun k => [0x41 + k, 0x61 + k]
  t.union (.ofCodes (letters.filter (·.any t.hasCode)).flatten)

/-- Every other character that simple case folding identifies with `c`. -/
def caseVariants (c : Char) : List Char :=
  match orbit? c.toNat largeOrbits with
  | [] => ((partner? c.toNat pairRuns).map Char.ofNat).toList
  | orbit => (orbit.filter (· ≠ c.toNat)).map Char.ofNat

end NamedRows.Unicode
