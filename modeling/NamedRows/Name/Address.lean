import NamedRows.Error
import NamedRows.Text.Blank
import NamedRows.Text.Numeral

/-!
# Addresses of rows by name

An address is a name, which occurrence of it is meant, and a number of rows to move on from there (`Address`). Its text
is the name, then `::k` for the occurrence, then `>>n` or `<<n` for the shift (`Address.render`, `Address.parse`):

    NAME [ "::" COUNT ] [ ("<<" | ">>") OFFSET ]

Reading splits at the last shift mark and then at the last `::` before it, so a name may contain either as long as a
clause of that sort follows it.
-/

namespace NamedRows

/-- A row by name: which occurrence of the name (none is the first, negative ones count from the last), and how many
rows further. -/
structure Address where
  name : String
  occurrence : Option Int64 := none
  shift : Int64 := 0
  deriving DecidableEq, Repr

namespace Address

/-- Splits a text at the last place where one of the marked characters stands twice in a row: what is before, the
character, and what is after. -/
def splitLast? (mark : Char → Bool) : List Char → Option (List Char × Char × List Char)
  | a :: b :: rest =>
    match splitLast? mark (b :: rest) with
    | some (before, c, after) => some (a :: before, c, after)
    | none => if a = b ∧ mark a then some ([], a, rest) else none
  | _ => none

/-- The characters that, doubled, open a shift clause. -/
def isShiftMark (c : Char) : Bool := c = '<' || c = '>'

/-- The character that, doubled, opens an occurrence clause. -/
def isCountMark (c : Char) : Bool := c = ':'

/-- The integer of a clause; blanks around it do not matter. -/
def readClause (literal : List Char) (otherwise : Error.Malformed) : Except Error Int64 :=
  match Text.Numeral.toInt64? (Text.trim literal) with
  | some n => .ok n
  | none => .error (.malformed (String.ofList literal) otherwise)

/-- Takes the shift clause off the end of an address. -/
def splitShift (text : List Char) : Except Error (List Char × Int64) :=
  match splitLast? isShiftMark text with
  | none => .ok (text, 0)
  | some (head, mark, literal) => do
    let n ← readClause literal (.badShift (String.ofList text))
    if mark = '>' then return (head, n)
    else if n = Int64.minValue then throw (.malformed (String.ofList literal) .shiftOverflow)
    else return (head, -n)

/-- Takes the occurrence clause off the end of what precedes the shift clause. -/
def splitCount (text head : List Char) : Except Error (List Char × Option Int64) :=
  match splitLast? isCountMark head with
  | none => .ok (head, none)
  | some (name, _, literal) => do
    let k ← readClause literal (.badOccurrence (String.ofList text))
    return (name, some k)

/-- Reads an address. -/
def parse (text : String) : Except Error Address := do
  let (head, shift) ← splitShift text.toList
  let (name, occurrence) ← splitCount text.toList head
  if name = [] then throw (.malformed text .missingName)
  else return ⟨String.ofList name, occurrence, shift⟩

/-- The occurrence clause of an address, nothing if it has none. -/
def countClause (a : Address) : List Char :=
  match a.occurrence with
  | none => []
  | some k => ':' :: ':' :: Text.Numeral.ofInt k.toInt

/-- The shift clause of an address, nothing for no shift. -/
def shiftClause (a : Address) : List Char :=
  if 0 < a.shift then '>' :: '>' :: Text.Numeral.ofInt a.shift.toInt
  else if a.shift < 0 then '<' :: '<' :: Text.Numeral.ofNat a.shift.toInt.natAbs
  else []

/-- The text of an address. -/
def render (a : Address) : String :=
  String.ofList (a.name.toList ++ a.countClause ++ a.shiftClause)

end Address

end NamedRows
