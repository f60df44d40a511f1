import NamedRows.Proofs.Row.Lenient
import NamedRows.Proofs.Row.Overrun
import NamedRows.Proofs.Row.Stages
import NamedRows.Proofs.Table.Chain
import NamedRows.Proofs.Table.Forget
import NamedRows.Externals.Standard

/-!
# Laws of selecting rows

- A table with all of its rows taken is the same source of rows (`source_relisted`). So it does not matter how the
  stages of a chain are grouped, and selecting all rows is a stage that does nothing (`positions_chain`).
- A name that means nothing is an error for `Table.select` and no rows for `Table.rows`; where `Table.select` succeeds,
  both come to the same rows (`lenient_extends_strict`).
- An end of a name range outside the table is an error or is moved into it, as the configuration says. A table that
  moves ends selects all that one selects that does not, and errors that it spares say that an index is out of range
  (`clamp_extends_fail`).
- A table of chosen columns that has the key column names its rows as the whole table does, so every selector that both
  can look at means the same in it (`select_cols`).
-/

namespace NamedRows.Table

variable {t u : Table Column}

/-! ## Stages of chains -/

theorem takeRows_range [Externals] (h : t.WellFormed) : t.takeRows (List.range t.rowCount) = t.derived t.columns :=
  Except.ok.inj (rows_all h)

/-- A table with all of its rows taken is the same source of rows: only the version of its directory is another. -/
theorem source_relisted [Externals] (h : t.WellFormed) : t.source.Relisted (t.derived t.columns).source where
  narrowed := takeRows_range h ▸ takeRows_narrowed h fun _ hp => List.mem_range.mp hp
  agrees := source_agrees h { version := true } t.config.overrun
  column?_eq := rfl

/-- A chain among the stages of a chain selects what its stages select in its place, in order or with the same error,
and all rows are the unit of chains: before or after a selector they change nothing, and a chain of no stages is all
rows. It does not matter whether names have to mean something. -/
theorem positions_chain [Externals] (h : Reachable t) (strict : Bool) :
    (∀ xs ys zs, t.source.positions (.chain (xs ++ [.chain ys] ++ zs)) strict =
      t.source.positions (.chain (xs ++ ys ++ zs)) strict) ∧
    (∀ s, t.source.positions (.chain [.all, s]) strict = t.source.positions s strict ∧
      t.source.positions (.chain [s, .all]) strict = t.source.positions s strict ∧
      t.source.positions (.chain [s]) strict = t.source.positions s strict) ∧
    t.source.positions (.chain []) strict = t.source.positions .all strict := by
  have hp : ∀ sel, t.source.positions sel strict = t.source.advance strict (List.range t.rowCount) sel :=
    positions_eq_advance (source_relisted h.wellFormed)
  refine ⟨fun xs ys zs => ?_, fun s => ⟨?_, ?_, ?_⟩, rfl⟩
  · rw [hp, hp, advance_flatten]
  · rw [hp, hp, advance_all_chain]
  · rw [hp, hp, advance_chain_all]
  · rw [hp, hp, advance_singleton]

/-- Turned round, the first of the rows from `ip2` to `ip3`, however the three stages are grouped. -/
theorem positions_chain_lattice :
    lattice.source.positions
        (.chain [.slice none none (some (-1)), .chain [.nameRange (some "ip2") (some "ip3"), .index 0]]) true =
      .ok [3] ∧
    lattice.source.positions
        (.chain [.slice none none (some (-1)), .nameRange (some "ip2") (some "ip3"), .index 0]) true = .ok [3] := by
  have hflat := (positions_chain lattice_reachable true).1 [.slice none none (some (-1))]
    [.nameRange (some "ip2") (some "ip3"), .index 0] []
  have hrows : lattice.source.positions
      (.chain [.slice none none (some (-1)), .nameRange (some "ip2") (some "ip3"), .index 0]) true = .ok [3] := rfl
  exact ⟨hflat.trans hrows, hrows⟩

/-! ## Strict and lenient -/

/-- What a selector means where names have to mean something, it means where they need not, and the table of its rows
holds these. An error of the one is an error of the other as well, unless it says that a text names nothing or cannot
be read. -/
theorem lenient_extends_strict [Externals] (t : Table Column) (sel : Selector) :
    (∀ s, t.select sel = .ok s → t.source.select sel false = .ok s ∧ t.rows sel = .ok (t.takeRows s.positions)) ∧
    ∀ e, t.select sel = .error e → t.source.select sel false = .error e ∨ e.family = .lookup ∨ e.family = .parse := by
  have h : Relaxes (t.select sel) (t.source.select sel false) := resolve_relaxes t.source sel {}
  refine ⟨fun s hs => ?_, fun e he => ?_⟩
  · have hlenient := h.eq_of_ok hs
    refine ⟨hlenient, ?_⟩
    unfold rows
    rw [hlenient]
    rfl
  · rcases h with h | ⟨e', he', hfamily⟩
    · exact Or.inl (h.trans he)
    · rw [he] at he'
      cases he'
      exact Or.inr hfamily

/-- The second `ip2` is found either way. The name `quad` is an error the one way and no rows the other; in a value range
over a column that is not there the error is the same both ways. -/
theorem lenient_extends_strict_lattice :
    lattice.source.select (.name "ip2::1") false = .ok (.single 2) ∧
      lattice.select (.name "quad") = .error (.noSuchRow "quad" "name") ∧
      lattice.source.select (.name "quad") false = .ok (.rows []) ∧
      lattice.source.select (.valueRange "s" none none) false = .error (.undefined "s") := by
  have hfound : lattice.select (.name "ip2::1") = .ok (.single 2) := rfl
  have habsent : lattice.select (.valueRange "s" none none) = .error (.undefined "s") := rfl
  refine ⟨((lenient_extends_strict lattice _).1 _ hfound).1, rfl, rfl, ?_⟩
  exact ((lenient_extends_strict lattice _).2 _ habsent).resolve_right (by decide)

/-! ## Clamped and refused ends -/

/-- Directories of one key column differ only in their versions. -/
theorem directory_congr (ht : t.WellFormed) (hu : u.WellFormed) (hkey : u.config.key = t.config.key)
    (hcolumn : u.column? t.config.key = t.column? t.config.key) :
    u.directory.map Directory.unstamped = t.directory.map Directory.unstamped := by
  rw [hu.directory_eq, ht.directory_eq, hkey, hcolumn]
  cases t.column? t.config.key with
  | none => rfl
  | some c => exact congrArg Except.ok ((unstamped_build c u.version).trans (unstamped_build c t.version).symm)

/-- Tables of the same columns are the same source of rows but for the policy: versions do not matter. -/
theorem source_under_agrees (ht : t.WellFormed) (hu : u.WellFormed) (hcolumns : u.columns = t.columns)
    (hkey : u.config.key = t.config.key) : (t.source.under u.config.overrun).Agrees u.source where
  rowCount_eq := by
    show u.rowCount = t.rowCount
    simp only [rowCount, hcolumns]
  key_eq := hkey
  overrun_eq := rfl
  keyColumn_eq := congrArg (fun columns => List.lookup t.config.key columns) hcolumns
  directory_eq := directory_congr ht hu hkey (congrArg (List.lookup t.config.key) hcolumns)

/-- Of two tables with the same columns, of which one refuses ends of name ranges outside the table and the other one
clamps them: what a selector means in the first it means in the second, and an error of the first is one of the second
as well, unless it says that an index is out of range. -/
theorem clamp_extends_fail [Externals] (ht : Reachable t) (hu : Reachable u) (hcolumns : u.columns = t.columns)
    (hkey : u.config.key = t.config.key) (hfail : t.config.overrun = .fail) (hclamp : u.config.overrun = .clamp)
    (sel : Selector) (strict : Bool) :
    (∀ s, t.source.select sel strict = .ok s → u.source.select sel strict = .ok s) ∧
    ∀ e, t.source.select sel strict = .error e → u.source.select sel strict = .error e ∨ e.family = .index := by
  have hagrees := source_under_agrees ht.wellFormed hu.wellFormed hcolumns hkey
  have hsame : u.source.select sel strict = (t.source.under .clamp).select sel strict :=
    resolve_congr (hclamp ▸ hagrees) sel {} fun name _ => congrArg (fun columns => List.lookup name columns) hcolumns
  have hunder : t.source.under .fail = t.source := by
    rw [← hfail]
    rfl
  have h : Admits (t.source.select sel strict) (u.source.select sel strict) := by
    rw [hsame, ← hunder]
    exact resolve_waives t.source strict sel {}
  exact ⟨fun s => h.eq_of_ok, fun e => h.error_or⟩

/-- The five rows again, in a table that refuses ends of name ranges outside it. -/
def unclampedLattice : Table Column := { lattice with config := { overrun := .fail } }

/-- Within the rows that are turned round, the range from `ip2` to four rows after `ip3` is refused, or ends at the last
of them, which is the first row. A range that stays inside is the same either way, and so is the error of a name that
does not occur. -/
theorem clamp_extends_fail_lattice :
    unclampedLattice.select (.chain [.slice none none (some (-1)), .nameRange (some "ip2") (some "ip1")]) =
        .ok (.rows [2, 1, 0]) ∧
      lattice.select (.chain [.slice none none (some (-1)), .nameRange (some "ip2") (some "ip1")]) =
        .ok (.rows [2, 1, 0]) ∧
      unclampedLattice.select (.chain [.slice none none (some (-1)), .nameRange (some "ip2") (some "ip3>>4")]) =
        .error (.outOfRange 5 (.rows 5)) ∧
      lattice.select (.chain [.slice none none (some (-1)), .nameRange (some "ip2") (some "ip3>>4")]) =
        .ok (.rows [2, 1, 0]) ∧
      lattice.select (.nameRange (some "quad") none) = .error (.noSuchRow "quad" "name") := by
  have hunclamped : Reachable unclampedLattice :=
    .create (show create lattice.columns { overrun := .fail } = .ok unclampedLattice from rfl)
  have hinside : unclampedLattice.select
      (.chain [.slice none none (some (-1)), .nameRange (some "ip2") (some "ip1")]) = .ok (.rows [2, 1, 0]) := rfl
  have habsent : unclampedLattice.select (.nameRange (some "quad") none) = .error (.noSuchRow "quad" "name") := rfl
  have h := clamp_extends_fail hunclamped lattice_reachable rfl rfl rfl rfl
  exact ⟨hinside, (h _ true).1 _ hinside, rfl, rfl, ((h _ true).2 _ habsent).resolve_right (by decide)⟩

/-! ## Chosen columns -/

/-- A table of chosen columns that has the key column is the same source of rows but for the columns left out. -/
theorem source_cols_agrees (h : t.WellFormed) {key : Column} (hkey : t.column? t.config.key = some key)
    {names : List String} {s : Table Column} (hcols : t.cols names = .ok s) : t.source.Agrees s.source := by
  obtain ⟨hs, hsize⟩ := cols_wellFormed h hcols
  have hconfig : s.config = t.config := by
    unfold cols at hcols
    split at hcols <;> cases hcols
    rfl
  have hkeyColumn : s.column? t.config.key = t.column? t.config.key := (column?_cols hcols _).trans (if_pos (Or.inl rfl))
  have hne : s.columns ≠ [] := List.ne_nil_of_mem (mem_of_lookup (hkeyColumn.trans hkey))
  exact {
    rowCount_eq := rowCount_eq hsize hne
    key_eq := congrArg Config.key hconfig
    overrun_eq := congrArg Config.overrun hconfig
    keyColumn_eq := hkeyColumn
    directory_eq := directory_congr h hs (congrArg Config.key hconfig) hkeyColumn }

/-- In a table with a key column, a table of chosen columns addresses its rows as the whole table does: a selector whose
value ranges, at any depth, look only at columns that are chosen selects the same there, or fails with the same error.
It does not matter whether names have to mean something. -/
theorem select_cols [Externals] (h : Reachable t) {key : Column} (hkey : t.column? t.config.key = some key)
    {names : List String} {s : Table Column} (hcols : t.cols names = .ok s) {sel : Selector}
    (hranged : ∀ name ∈ sel.ranged, name ∈ s.names) (strict : Bool) :
    s.source.select sel strict = t.source.select sel strict :=
  resolve_congr (source_cols_agrees h.wellFormed hkey hcols) sel {} fun name hname =>
    column?_cols_of_mem hcols (hranged name hname)

/-- Of the rows from the second turn on, the second `ip2` is found as well where the columns have changed places, and
there is no third one in either table. -/
theorem select_cols_lattice :
    ∃ s, lattice.cols ["turns", "name"] = .ok s ∧ s.names = ["turns", "name"] ∧
      s.select (.chain [.valueRange "turns" (some (.int 2)) none, .name "ip2::1"]) = .ok (.single 2) ∧
      s.source.select (.chain [.valueRange "turns" (some (.int 2)) none, .name "ip2::2"]) false =
        .error (.outOfRange 2 (.occurrences "ip2" 2)) := by
  let s : Table Column := lattice.derived
    [("turns", .int #[1, 2, 3, 4, 5]), ("name", .text #["ip1", "ip2", "ip2", "ip3", "tab$end"])]
  have hcols : lattice.cols ["turns", "name"] = .ok s := rfl
  let sel (text : String) : Selector := .chain [.valueRange "turns" (some (.int 2)) none, .name text]
  have hturns : ∀ name ∈ ["turns"], name ∈ s.names := by decide
  have hranged (text : String) : ∀ name ∈ (sel text).ranged, name ∈ s.names := hturns
  have hselect (text : String) (strict : Bool) :
      s.source.select (sel text) strict = lattice.source.select (sel text) strict :=
    select_cols lattice_reachable rfl hcols (hranged text) strict
  exact ⟨s, hcols, rfl, (hselect "ip2::1" true).trans rfl, (hselect "ip2::2" false).trans rfl⟩

end NamedRows.Table
