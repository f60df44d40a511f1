import NamedRows.Table.Operation

/-!
# Reachable tables

The tables that a program comes to hold (`Table.Reachable`), and what makes a list of columns with a kept directory a
proper table (`Table.WellFormed`). `Table.lattice` is one of them.
-/

namespace NamedRows.Table

/-- Distinct names, columns of one length, and a kept directory that is the one of the present key column at the present
version. -/
structure WellFormed (t : Table Column) : Prop where
  nodup : t.names.Nodup
  size_eq : ∀ p ∈ t.columns, p.2.size = t.rowCount
  cached_eq : ∀ d, t.cached = some d → ∃ c, t.column? t.config.key = some c ∧ d = Directory.build c t.version

variable [Externals]

/-- Tables that are made of columns, that an operation leaves behind whether it succeeds or fails, or that are read from
another table. A table is a value, so a copy is the same table once more, and each of the two goes on from there. -/
inductive Reachable : Table Column → Prop
  | create {columns : List (String × Column)} {config : Config} {t : Table Column} :
      Table.create columns config = .ok t → Reachable t
  | perform {t : Table Column} (least : Log.Severity) (op : Operation) :
      Reachable t → Reachable (t.perform least op).2.1
  | read {t s : Table Column} {op : Operation} :
      Reachable t → t.answer op = .ok (.reading (.table s)) → Reachable s

/-- A table of five rows. The second and the third have one name. -/
def lattice : Table Column where
  columns := [("name", .text #["ip1", "ip2", "ip2", "ip3", "tab$end"]), ("turns", .int #[1, 2, 3, 4, 5])]
  config := {}

theorem lattice_reachable : Reachable lattice :=
  .create (show Table.create lattice.columns {} = .ok lattice from rfl)

end NamedRows.Table
