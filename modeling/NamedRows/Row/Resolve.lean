import NamedRows.Config
import NamedRows.Name.Directory
import NamedRows.Name.Pattern
import NamedRows.Row.Selection
import NamedRows.Row.Selector
import NamedRows.Row.Slice

/-!
# Resolving selectors

What rows are selected from (`Source`), the part of them a stage of a chain sees (`Window`), and the rows a selector
means there (`resolve`). A text is a verbatim name if it occurs as one, else an address whose name occurs, else a
pattern if it holds a pattern character (`naming`). A name that means nothing is an error when resolution is
strict, and selects nothing when it is lenient or inside a list of names. Selectors that mean one row never move
to another one.
-/

namespace NamedRows

/-- What rows are selected from. -/
structure Source where
  rowCount : Nat
  /-- The column that names the rows. -/
  key : String
  /-- The directory of the key column; without such a column its name is undefined. -/
  directory : Except Error Directory
  column? : String → Option Column
  overrun : Overrun := .clamp

/-- The rows a stage sees, as positions in the whole source; none given is every row. -/
structure Window where
  rows : Option (List Nat) := none

namespace Window

/-- The number of rows in the window. -/
def size (w : Window) (src : Source) : Nat :=
  match w.rows with
  | none => src.rowCount
  | some rows => rows.length

/-- The rows of the window, as positions in the whole source. -/
def all (w : Window) (src : Source) : List Nat := w.rows.getD (List.range src.rowCount)

/-- The position in the whole source of a row of the window. -/
def absolute (w : Window) (row : Nat) : Nat :=
  match w.rows with
  | none => row
  | some rows => rows[row]?.getD 0

/-- The directory of the rows of the window. A narrowed window has one of its own, with rows counted inside it. -/
def directory (w : Window) (src : Source) : Except Error Directory :=
  match w.rows with
  | none => src.directory
  | some rows =>
    match src.column? src.key with
    | none => .error (.undefined src.key)
    | some column => .ok (Directory.build (column.take rows) 0)

end Window

/-- A row, if the position is one of `size` rows. -/
def checkRow (p : Int) (size : Nat) : Except Error Nat :=
  if 0 ≤ p ∧ p < size then .ok p.toNat else .error (.outOfRange p (.rows size))

/-- A position moved into the range of 64 bits. -/
def saturate (p : Int) : Int := max Int64.minValue.toInt (min p Int64.maxValue.toInt)

/-- The row `n` rows after `row`. -/
def shiftHit (row : Nat) (n : Int64) : Int := saturate (row + n.toInt)

/-- The row an address means, if its name occurs. -/
def exactRow (d : Directory) (a : Address) (size : Nat) : Except Error Nat := do
  checkRow (← d.position a.name a.occurrence a.shift) size

variable [Externals]

/-- The rows whose names match a pattern, ascending. -/
def patternRows (d : Directory) (pattern : String) : Except Error (List Nat) := do
  let p ← NamePattern.compile pattern
  return ((d.names.toList.filter p.hits).flatMap fun name => (d.occurrences name).toList).mergeSort

/-- The hit an occurrence means. -/
def pickHit (hits : List Nat) (k : Int64) (pattern : String) : Except Error Nat :=
  match (entryIndex k hits.length).bind fun i => hits[i]? with
  | some row => .ok row
  | none => .error (.outOfRange k.toInt (.hits pattern hits.length))

/-- The hits moved by a shift, as far as they stay among `size` rows. -/
def movedHits (hits : List Nat) (shift : Int64) (size : Nat) : List Nat :=
  (hits.map fun hit => shiftHit hit shift).filterMap fun p => (checkRow p size).toOption

/-- The rows a pattern means: every hit moved by the shift, as far as it stays in the window, or the one hit that an
occurrence picks. An occurrence of a pattern without hits means no rows. -/
def resolvePattern (w : Window) (d : Directory) (a : Address) (size : Nat) : Except Error Selection := do
  let hits ← patternRows d a.name
  match a.occurrence with
  | none =>
    return .rows ((movedHits hits a.shift size).map w.absolute)
  | some k =>
    if hits = [] then return .rows []
    else
      let hit ← pickHit hits k a.name
      let row ← checkRow (shiftHit hit a.shift) size
      return .single (w.absolute row)

/-- What a text stands for among the names of a directory. -/
inductive Naming
  /-- One row: a name that occurs, verbatim or in an address. -/
  | row (a : Address)
  /-- The rows whose names match. -/
  | pattern (a : Address)
  /-- No name, and no address either. -/
  | unreadable (e : Error)
  /-- A name that does not occur. -/
  | nothing

/-- A text is a name if it occurs as one, else an address. -/
def naming (d : Directory) (text : String) : Naming :=
  if d.contains text then .row { name := text }
  else
    match Address.parse text with
    | .error e => .unreadable e
    | .ok a => if d.contains a.name then .row a else if isPattern a.name then .pattern a else .nothing

/-- The rows a text means. -/
def resolveName (src : Source) (w : Window) (strict : Bool) (text : String) : Except Error Selection := do
  let d ← w.directory src
  match naming d text with
  | .row a =>
    let row ← exactRow d a (w.size src)
    return .single (w.absolute row)
  | .pattern a => resolvePattern w d a (w.size src)
  | .unreadable e => if strict then throw e else return .rows []
  | .nothing => if strict then throw (.noSuchRow text src.key) else return .rows []

/-- The rows several texts mean, one after another; a text that means nothing adds nothing. -/
def resolveNames (src : Source) (w : Window) : List String → Except Error (List Nat)
  | [] => .ok []
  | text :: texts => do
    let s ← resolveName src w false text
    let rows ← resolveNames src w texts
    return s.positions ++ rows

/-- The position a text means as an end of a name range, before it is fitted to the window. -/
def boundPosition (src : Source) (d : Directory) (text : String) : Except Error Int :=
  match naming d text with
  | .row a => d.position a.name a.occurrence a.shift
  | .pattern a => do
    let hits ← patternRows d a.name
    if hits = [] then throw (.noSuchRow text src.key)
    else
      let hit ← pickHit hits (a.occurrence.getD 0) a.name
      return shiftHit hit a.shift
  | .unreadable e => throw e
  | .nothing => throw (.noSuchRow text src.key)

/-- A position fitted to `size` rows as the policy says. -/
def fitBound (overrun : Overrun) (p : Int) (size : Nat) : Except Error Nat :=
  match overrun with
  | .fail => checkRow p size
  | .clamp => if size = 0 then .error (.outOfRange p (.rows size)) else .ok (max 0 (min p (size - 1))).toNat

/-- An end of a name range, as a row of the window. -/
def rangeBound (src : Source) (w : Window) (text : String) : Except Error Nat := do
  let d ← w.directory src
  let p ← boundPosition src d text
  fitBound src.overrun p (w.size src)

/-- The row a name range starts at: the first one if no name is given, which need not be there. -/
def rangeStart (src : Source) (w : Window) : Option String → Except Error Nat
  | none => .ok 0
  | some text => rangeBound src w text

/-- The rows between two of them, whichever comes first. -/
def between (a b : Nat) : List Nat := List.range' (min a b) (max a b + 1 - min a b)

/-- The rows of a name range. Without a stop it runs to the last row, so in an empty window it means no rows. -/
def resolveNameRange (src : Source) (w : Window) (start stop : Option String) : Except Error Selection := do
  let lo ← rangeStart src w start
  match stop with
  | some text =>
    let hi ← rangeBound src w text
    return .rows ((between lo hi).map w.absolute)
  | none =>
    if w.size src = 0 then return .rows []
    else return .rows ((between lo (w.size src - 1)).map w.absolute)

/-- Whether a cell lies between two bounds; a cell that does not compare with a bound does not. -/
def isWithin (low high : Option Cell) (c : Cell) : Bool :=
  low.all (fun lo => (c.compare? lo).any Ordering.isGE) && high.all (fun hi => (c.compare? hi).any Ordering.isLE)

/-- A bound of a value range has to be a text exactly when the column holds texts. -/
def checkBound (name : String) (column : Column) (bound : Option Cell) : Except Error Unit :=
  match bound with
  | none => .ok ()
  | some c =>
    if (c.kind = .text) = (column.kind = .text) then .ok ()
    else .error (.mismatch (.bound column.kind name c))

/-- The rows of a value range. -/
def resolveValueRange (src : Source) (w : Window) (name : String) (low high : Option Cell) :
    Except Error Selection :=
  match src.column? name with
  | none => .error (.undefined name)
  | some column => do
    checkBound name column low
    checkBound name column high
    return .rows ((w.all src).filter fun row => (column.cell? row).any (isWithin low high))

/-- The rows a mask means. In a narrowed window a mask may have an entry for each row of the window, or for each row of
the whole source. -/
def resolveMask (src : Source) (w : Window) (flags : List Bool) : Except Error Selection :=
  if flags.length = w.size src then
    match w.rows with
    | none => .ok (.mask flags)
    | some _ => .ok (.rows ((flagged flags).map w.absolute))
  else if flags.length = src.rowCount then
    .ok (.rows ((w.all src).filter fun row => flags[row]?.getD false))
  else .error (.mismatch (.maskLength flags.length (w.size src)))

/-- A position counted from either end of the window, as a position in the whole source. -/
def resolveIndex (src : Source) (w : Window) (i : Int64) : Except Error Nat :=
  match entryIndex i (w.size src) with
  | some row => .ok (w.absolute row)
  | none => .error (.outOfRange i.toInt (.rows (w.size src)))

mutual

/-- The rows a selector means in a window. -/
def resolve (src : Source) (strict : Bool) (w : Window) : Selector → Except Error Selection
  | .all => .ok (.rows (w.all src))
  | .index i => (resolveIndex src w i).map .single
  | .name text => resolveName src w strict text
  | .address a => do
    let d ← w.directory src
    let row ← exactRow d a (w.size src)
    return .single (w.absolute row)
  | .slice start stop step => do
    let rows ← NamedRows.slice (w.size src) start stop step
    return .rows (rows.map w.absolute)
  | .nameRange start stop => resolveNameRange src w start stop
  | .valueRange column low high => resolveValueRange src w column low high
  | .indices is => (is.mapM (resolveIndex src w)).map .rows
  | .names texts => (resolveNames src w texts).map .rows
  | .mask flags => resolveMask src w flags
  | .chain stages => resolveStages src strict w stages

/-- The rows the last stage of a chain means in the rows of the stages before it. -/
def resolveStages (src : Source) (strict : Bool) (w : Window) : List Selector → Except Error Selection
  | [] => .ok (.rows (w.all src))
  | [stage] => resolve src strict w stage
  | stage :: next :: stages => do
    let s ← resolve src strict w stage
    resolveStages src strict ⟨some s.positions⟩ (next :: stages)

end

/-- The rows a selector means in the whole source. -/
def Source.select (src : Source) (selector : Selector) (strict : Bool) : Except Error Selection :=
  resolve src strict {} selector

end NamedRows
