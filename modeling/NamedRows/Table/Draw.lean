import NamedRows.Table.Basic

/-!
# Columns drawn from a pool

Columns can be put in another order without a look-up for each place: they are drawn from a pool one after another
(`Table.draw`). The entry that is found is taken out and the last one of the pool is put in its place, so nothing is
moved up. This leaves the pool in an order that nobody asked for, and what is drawn from it later is searched for there.
-/

namespace NamedRows.Table

variable {α κ : Type}

/-- A list without the entry at an index, in whose place the last entry is put. -/
def swapRemove (entries : List α) (i : Nat) : List α :=
  match entries.getLast? with
  | none => []
  | some last => entries.dropLast.set i last

/-- The first entry of a name, and the pool without it. -/
def drawn? (pool : List (String × κ)) (name : String) : Option ((String × κ) × List (String × κ)) := do
  let i ← pool.findIdx? fun p => p.1 = name
  let p ← pool[i]?
  return (p, swapRemove pool i)

/-- The entries of some names, drawn one after another, and what is left of the pool. A name that is not there draws
nothing. -/
def draw (pool : List (String × κ)) : List String → List (String × κ) × List (String × κ)
  | [] => ([], pool)
  | name :: names =>
    match drawn? pool name with
    | none => draw pool names
    | some (p, rest) =>
      let (entries, left) := draw rest names
      (p :: entries, left)

end NamedRows.Table
