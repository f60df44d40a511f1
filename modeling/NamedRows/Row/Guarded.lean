import NamedRows.Row.Resolve

/-!
# Resolving selectors with every access spelled out

`resolve` reads lists as if every index were good and adds positions as if they had no bounds. This is the same
computation with nothing taken for granted: an index into a list, a sum or a difference of 64-bit positions and a clamp
between two limits can each trap (`Trap`), and a length becomes a signed position by wrapping. A trap is not an error:
no caller is told about it. The rows that a stage of a chain passes on are held in memory, which has its limit too.

Where a position is added with a check or saturates, nothing can trap, and the outcome is the same as before.
-/

namespace NamedRows

/-- The most rows that a signed position can count. -/
def maxRows : Nat := Int64.maxValue.toInt.toNat

/-- What stops a computation without being an error. -/
inductive Trap
  /-- A list has no entry at an index. -/
  | index (i size : Nat)
  /-- A sum or a difference is none of its integers. -/
  | overflow (exact : Int)
  /-- The lower limit of a clamp is above the upper one. -/
  | crossed (low high : Int)
  /-- A list has more entries than memory. -/
  | memory (entries : Nat)
  deriving DecidableEq, Repr

/-- A computation that traps, fails or succeeds. -/
abbrev Guarded (α : Type) := ExceptT Error (Except Trap) α

namespace Guarded

/-! ## Accesses -/

def trap {α : Type} (t : Trap) : Guarded α := ExceptT.mk (.error t)

/-- A computation in which nothing can trap. -/
def plain {α : Type} (x : Except Error α) : Guarded α := ExceptT.mk (.ok x)

/-- The entry of a list at an index. -/
def entry {α : Type} (entries : List α) (i : Nat) : Guarded α :=
  match entries[i]? with
  | some a => pure a
  | none => trap (.index i entries.length)

/-- A length or a row as a signed position. -/
def signed (n : Nat) : Int := (Int64.ofNat n).toInt

/-- A sum of signed positions. -/
def sum (a b : Int) : Guarded Int :=
  if Text.Numeral.inRange (a + b) then pure (a + b) else trap (.overflow (a + b))

/-- The unsigned number before another one. -/
def before (n : Nat) : Guarded Nat := if n = 0 then trap (.overflow (-1)) else pure (n - 1)

/-- A position moved between two limits. -/
def clamped (p low high : Int) : Guarded Int :=
  if low ≤ high then pure (max low (min p high)) else trap (.crossed low high)

/-- Rows that are kept for a later stage. -/
def held (rows : List Nat) : Guarded (List Nat) :=
  if rows.length ≤ maxRows then pure rows else trap (.memory rows.length)

/-! ## Directories -/

/-- The entry that `k` means among `count` entries. -/
def entryIndex (k : Int64) (count : Nat) : Guarded (Option Nat) := do
  let i ← if k < 0 then sum (signed count) k.toInt else pure k.toInt
  return if 0 ≤ i ∧ i < signed count then some i.toNat else none

/-- The row of an occurrence of a name. -/
def row (d : Directory) (name : String) (occurrence : Option Int64) : Guarded Nat :=
  match d.rowsOf[name]? with
  | none => throw (.undefined name)
  | some rows => do
    match ← entryIndex (occurrence.getD 0) rows.size with
    | some slot => entry rows.toList slot
    | none => throw (.outOfRange (occurrence.getD 0).toInt (.occurrences name rows.size))

/-- The position an occurrence and a shift lead to. The sum is checked. -/
def position (d : Directory) (name : String) (occurrence : Option Int64) (shift : Int64) : Guarded Int := do
  let r ← row d name occurrence
  if Text.Numeral.inRange (signed r + shift.toInt) then return signed r + shift.toInt
  else throw (.outOfRange shift.toInt (.shiftFrom name))

/-- The name of a row and which occurrence of it the row is. -/
def label? (d : Directory) (row : Nat) : Guarded (Option (String × Nat)) :=
  match d.labels[row]? with
  | none => return none
  | some (slot, k) => do return some (← entry d.names.toList slot, k)

/-! ## Windows -/

def gather {α : Type} (cells : Array α) (rows : List Nat) : Guarded (Array α) := do
  return (← rows.mapM (entry cells.toList)).toArray

/-- The rows of a column at the given positions. -/
def take (column : Column) (rows : List Nat) : Guarded Column :=
  match column with
  | .float cells => do return .float (← gather cells rows)
  | .int cells => do return .int (← gather cells rows)
  | .text cells => do return .text (← gather cells rows)
  | .bool cells => do return .bool (← gather cells rows)

/-- The position in the whole source of a row of the window. -/
def absolute (w : Window) (row : Nat) : Guarded Nat :=
  match w.rows with
  | none => return row
  | some rows => entry rows row

/-- The rows of the window, as positions in the whole source. -/
def all (w : Window) (src : Source) : Guarded (List Nat) := (List.range (w.size src)).mapM (absolute w)

/-- The directory of the rows of the window. -/
def directory (w : Window) (src : Source) : Guarded Directory :=
  match w.rows with
  | none => plain src.directory
  | some rows =>
    match src.column? src.key with
    | none => throw (.undefined src.key)
    | some column => do return Directory.build (← take column rows) 0

/-! ## Names and patterns -/

/-- The row an address means, if its name occurs. -/
def exactRow (d : Directory) (a : Address) (size : Nat) : Guarded Nat := do
  let p ← position d a.name a.occurrence a.shift
  plain (checkRow p size)

/-- The row `n` rows after `row`. The sum saturates. -/
def shiftHit (row : Nat) (n : Int64) : Int := saturate (signed row + n.toInt)

/-- The hits moved by a shift, as far as they stay among `size` rows. -/
def movedHits (hits : List Nat) (shift : Int64) (size : Nat) : List Nat :=
  (hits.map fun hit => shiftHit hit shift).filterMap fun p => (checkRow p size).toOption

/-- The hit an occurrence means. -/
def pickHit (hits : List Nat) (k : Int64) (pattern : String) : Guarded Nat := do
  match ← entryIndex k hits.length with
  | some i => entry hits i
  | none => throw (.outOfRange k.toInt (.hits pattern hits.length))

variable [Externals]

/-- The rows a pattern means. -/
def resolvePattern (w : Window) (d : Directory) (a : Address) (size : Nat) : Guarded Selection := do
  let hits ← plain (patternRows d a.name)
  match a.occurrence with
  | none =>
    return .rows (← (movedHits hits a.shift size).mapM (absolute w))
  | some k =>
    if hits = [] then return .rows []
    else
      let hit ← pickHit hits k a.name
      let row ← plain (checkRow (shiftHit hit a.shift) size)
      return .single (← absolute w row)

/-- The rows a text means. -/
def resolveName (src : Source) (w : Window) (strict : Bool) (text : String) : Guarded Selection := do
  let d ← directory w src
  match naming d text with
  | .row a =>
    let row ← exactRow d a (w.size src)
    return .single (← absolute w row)
  | .pattern a => resolvePattern w d a (w.size src)
  | .unreadable e => if strict then throw e else return .rows []
  | .nothing => if strict then throw (.noSuchRow text src.key) else return .rows []

/-- The rows several texts mean, one after another. -/
def resolveNames (src : Source) (w : Window) : List String → Guarded (List Nat)
  | [] => return []
  | text :: texts => do
    let s ← resolveName src w false text
    let rows ← resolveNames src w texts
    return s.positions ++ rows

/-! ## Ranges -/

/-- The position a text means as an end of a name range. -/
def boundPosition (src : Source) (d : Directory) (text : String) : Guarded Int :=
  match naming d text with
  | .row a => position d a.name a.occurrence a.shift
  | .pattern a => do
    let hits ← plain (patternRows d a.name)
    if hits = [] then throw (.noSuchRow text src.key)
    else
      let hit ← pickHit hits (a.occurrence.getD 0) a.name
      return shiftHit hit a.shift
  | .unreadable e => throw e
  | .nothing => throw (.noSuchRow text src.key)

/-- A position fitted to `size` rows as the policy says. -/
def fitBound (overrun : Overrun) (p : Int) (size : Nat) : Guarded Nat :=
  match overrun with
  | .fail => plain (checkRow p size)
  | .clamp =>
    if size = 0 then throw (.outOfRange p (.rows size))
    else do
      let last ← sum (signed size) (-1)
      return (← clamped p 0 last).toNat

/-- An end of a name range, as a row of the window. -/
def rangeBound (src : Source) (w : Window) (text : String) : Guarded Nat := do
  let d ← directory w src
  let p ← boundPosition src d text
  fitBound src.overrun p (w.size src)

/-- The row a name range starts at. -/
def rangeStart (src : Source) (w : Window) : Option String → Guarded Nat
  | none => return 0
  | some text => rangeBound src w text

/-- The rows of a name range. -/
def resolveNameRange (src : Source) (w : Window) (start stop : Option String) : Guarded Selection := do
  let lo ← rangeStart src w start
  match stop with
  | some text =>
    let hi ← rangeBound src w text
    return .rows (← (between lo hi).mapM (absolute w))
  | none =>
    if w.size src = 0 then return .rows []
    else
      let last ← before (w.size src)
      return .rows (← (between lo last).mapM (absolute w))

/-- The rows of a value range. -/
def resolveValueRange (src : Source) (w : Window) (name : String) (low high : Option Cell) : Guarded Selection :=
  match src.column? name with
  | none => throw (.undefined name)
  | some column => do
    plain (checkBound name column low)
    plain (checkBound name column high)
    return .rows ((← all w src).filter fun row => (column.cell? row).any (isWithin low high))

/-- A bound of a slice over `n` rows. The sum saturates. -/
def sliceBound (n least most default : Int) : Option Int64 → Guarded Int
  | none => return default
  | some b => clamped (if b < 0 then saturate (b.toInt + n) else b.toInt) least most

/-- The positions from `i` on in steps of `width`, for as long as `last` is not reached. The sum is checked: the walk
ends where the next position is none of 64 bits. -/
def walk (i last width : Int) : List Nat :=
  if (0 < width ∧ i < last) ∨ (width < 0 ∧ last < i) then
    i.toNat :: if Text.Numeral.inRange (i + width) then walk (i + width) last width else []
  else []
termination_by (if 0 < width then last - i else i - last).toNat
decreasing_by split <;> omega

/-- The positions of a slice over `size` rows. -/
def slice (size : Nat) (start stop step : Option Int64) : Guarded (List Nat) := do
  let width := (step.getD 1).toInt
  if width = 0 then throw (.malformed "0" .zeroStep)
  else if 0 < width then
    let first ← sliceBound (signed size) 0 (signed size) 0 start
    let last ← sliceBound (signed size) 0 (signed size) (signed size) stop
    return walk first last width
  else
    let top ← sum (signed size) (-1)
    let first ← sliceBound (signed size) (-1) top top start
    let last ← sliceBound (signed size) (-1) top (-1) stop
    return walk first last width

/-! ## Positions and masks -/

/-- The rows a mask means. -/
def resolveMask (src : Source) (w : Window) (flags : List Bool) : Guarded Selection :=
  if flags.length = w.size src then
    match w.rows with
    | none => return .mask flags
    | some _ => do return .rows (← (flagged flags).mapM (absolute w))
  else if flags.length = src.rowCount then do
    let marked ← (← all w src).mapM fun row => do return (row, ← entry flags row)
    return .rows ((marked.filter Prod.snd).map Prod.fst)
  else throw (.mismatch (.maskLength flags.length (w.size src)))

/-- A position counted from either end of the window. -/
def resolveIndex (src : Source) (w : Window) (i : Int64) : Guarded Nat := do
  match ← entryIndex i (w.size src) with
  | some row => absolute w row
  | none => throw (.outOfRange i.toInt (.rows (w.size src)))

/-! ## All selectors -/

mutual

/-- The rows a selector means in a window. -/
def resolve (src : Source) (strict : Bool) (w : Window) : Selector → Guarded Selection
  | .all => do return .rows (← all w src)
  | .index i => do return .single (← resolveIndex src w i)
  | .name text => resolveName src w strict text
  | .address a => do
    let d ← directory w src
    let row ← exactRow d a (w.size src)
    return .single (← absolute w row)
  | .slice start stop step => do
    let rows ← slice (w.size src) start stop step
    return .rows (← rows.mapM (absolute w))
  | .nameRange start stop => resolveNameRange src w start stop
  | .valueRange column low high => resolveValueRange src w column low high
  | .indices is => do return .rows (← is.mapM (resolveIndex src w))
  | .names texts => do return .rows (← resolveNames src w texts)
  | .mask flags => resolveMask src w flags
  | .chain stages => resolveStages src strict w stages

/-- The rows the last stage of a chain means in the rows of the stages before it. -/
def resolveStages (src : Source) (strict : Bool) (w : Window) : List Selector → Guarded Selection
  | [] => do return .rows (← all w src)
  | [stage] => resolve src strict w stage
  | stage :: next :: stages => do
    let s ← resolve src strict w stage
    let rows ← held s.positions
    resolveStages src strict ⟨some rows⟩ (next :: stages)

end

/-- The rows a selector means in the whole source. -/
def select (src : Source) (selector : Selector) (strict : Bool) : Guarded Selection := resolve src strict {} selector

end Guarded

end NamedRows
