import NamedRows.Column
import NamedRows.Name.Address

/-!
# Selectors

The ways rows can be asked for (`Selector`): all of them, by position, by name or pattern, by address, by slices and
ranges, by lists and masks, and by chains of stages, each of which looks only at the rows of the one before. Positions
that come in other forms are converted (`Selector.ofUnsigned`, `Selector.halfOpen`, `Selector.closed`), and every
selector has a text for reports (`Selector.describe`).
-/

namespace NamedRows

/-- A way to ask for rows. -/
inductive Selector
  | all
  /-- One position; negative ones count from the end. -/
  | index (i : Int64)
  /-- A name, an address in text form, or a pattern over names. -/
  | name (text : String)
  /-- An address; its name is never taken as a pattern. -/
  | address (a : Address)
  | slice (start stop step : Option Int64)
  /-- The rows between two named ones, both included. -/
  | nameRange (start stop : Option String)
  /-- The rows whose cell in a column lies between two bounds, both included. -/
  | valueRange (column : String) (low high : Option Cell)
  | indices (is : List Int64)
  | names (texts : List String)
  /-- One flag a row. -/
  | mask (flags : List Bool)
  /-- Stages, each within the rows of the one before. -/
  | chain (stages : List Selector)
  deriving Repr

namespace Selector

/-- An unsigned position, taken as the signed one with the same bits. -/
def ofUnsigned (u : UInt64) : Selector := index u.toInt64

/-- The positions from `a` up to `b` without it. -/
def halfOpen (a b : Int64) : Selector := slice (some a) (some b) none

/-- The position after `b`, for a range that includes `b`. The last position has none after it; the greatest integer
stands for any position beyond the rows. -/
def afterLast (b : Int64) : Option Int64 :=
  if b = -1 then none else if b = Int64.maxValue then some b else some (b + 1)

/-- The positions from `a` up to `b` with it. -/
def closed (a b : Int64) : Selector := slice (some a) (afterLast b) none

/-- The mask that a column of truth values holds. -/
def ofMaskColumn : Column → Except Error Selector
  | .bool cells => .ok (mask cells.toList)
  | column => .error (.mismatch (.maskKind column.kind))

/-- Whether resolving a selector over a whole table looks at the table's directory of names. Only the first stage of a
chain sees the whole table. -/
def consultsDirectory : Selector → Bool
  | name _ => true
  | address _ => true
  | nameRange start stop => start.isSome || stop.isSome
  | names texts => !texts.isEmpty
  | chain (first :: _) => first.consultsDirectory
  | _ => false

/-! ## Text for reports -/

/-- An optional value in a report. -/
def describeOption {α : Type} (describe : α → String) : Option α → String
  | none => "None"
  | some a => s!"Some({describe a})"

/-- A list in a report. -/
def describeList (items : List String) : String := "[" ++ String.intercalate ", " items ++ "]"

def describeInt (n : Int64) : String := toString n.toInt

/-- Named fields in a report. -/
def describeFields (title : String) (fields : List (String × String)) : String :=
  title ++ " \x7b " ++ String.intercalate ", " (fields.map fun f => f.1 ++ ": " ++ f.2) ++ " \x7d"

mutual

/-- The text of a selector for reports. -/
def describe : Selector → String
  | all => "All"
  | index i => s!"Index({describeInt i})"
  | name text => s!"Name({Text.quote text})"
  | address a =>
    let fields := describeFields "SelectorDescriptor"
      [("base", Text.quote a.name), ("occurrence", describeOption describeInt a.occurrence),
        ("offset", describeInt a.shift)]
    s!"Descriptor({fields})"
  | slice start stop step =>
    describeFields "Slice" [("start", describeOption describeInt start), ("stop", describeOption describeInt stop),
      ("step", describeOption describeInt step)]
  | nameRange start stop =>
    describeFields "NameRange" [("start", describeOption Text.quote start), ("stop", describeOption Text.quote stop)]
  | valueRange column low high =>
    describeFields "ValueRange" [("column", Text.quote column), ("low", describeOption Cell.describe low),
      ("high", describeOption Cell.describe high)]
  | indices is => s!"Indices({describeList (is.map describeInt)})"
  | names texts => s!"Names({describeList (texts.map Text.quote)})"
  | mask flags => s!"Mask({describeList (flags.map toString)})"
  | chain stages => s!"Chain({describeList (describeStages stages)})"

/-- The texts of the stages of a chain. -/
def describeStages : List Selector → List String
  | [] => []
  | stage :: stages => stage.describe :: describeStages stages

end

end Selector

end NamedRows
