import NamedRows.Proofs.Row.Guarded
import NamedRows.Proofs.Table.Cells
import NamedRows.Table.Guarded
import NamedRows.Externals.Standard

/-!
# Reading a table does not trap

The source of a well-formed table is sound (`source_sound`), so resolving a selector over it does not trap, and neither
do the look-ups in its columns at the rows that the selector means (`select_safe`).
-/

namespace NamedRows

/-- A reading with `n` rows wherever it has rows. -/
def Reading.Sized (n : Nat) : Reading Column → Prop
  | .cell _ => True
  | .column c => c.size = n
  | .table t => ∀ p ∈ t.columns, p.2.size = n

namespace Table

variable {t : Table Column}

theorem source_sound (h : t.WellFormed) : t.source.Sound where
  size_eq _ _ hc := h.size_column hc
  directory_eq d hd := by
    have hdir : t.directory = .ok d := hd
    rw [h.directory_eq] at hdir
    cases hc : t.column? t.config.key with
    | none => rw [hc] at hdir; cases hdir
    | some c => rw [hc] at hdir; cases hdir; exact ⟨c, t.version, hc, rfl⟩

/-- Whole columns have a cell for every row of the table. -/
theorem get_sized [Externals] (h : t.WellFormed) {columns : Columns} {whole : Reading Column}
    (hg : t.get columns = .ok whole) :
    whole.Sized t.rowCount := by
  cases whole with
  | cell c => trivial
  | table u => exact (get_table_wellFormed h hg).2
  | column c =>
    have hnone : ∀ p ∈ [], p < t.rowCount := nofun
    rcases (get_sampled h hnone columns).error_or_ok with ⟨e, he, -⟩ | ⟨_, _, hok, -, hsampled⟩
    · rw [hg] at he
      cases he
    · rw [hg] at hok
      cases hok
      cases hsampled with
      | column hc => exact hc

theorem takeRows_follows {n : Nat} (h : ∀ p ∈ t.columns, p.2.size = n) {rows : List Nat} (hr : ∀ r ∈ rows, r < n) :
    Follows (Guarded.takeRows t rows) (.ok (t.takeRows rows)) := by
  have hcolumns : Follows (t.columns.mapM fun p => do return (p.1, ← Guarded.take p.2 rows))
      (.ok (t.columns.map fun p => (p.1, p.2.take rows))) :=
    .mapM_map fun p hp => (take_follows fun r hm => (h p hp).symm ▸ hr r hm).bind_ok (.pure _)
  exact hcolumns.bind_ok (.pure _)

/-- Whole columns can be restricted to rows of the table. -/
theorem restrict_eq_ok {n : Nat} {whole : Reading Column} (h : whole.Sized n) {s : Selection} (hs : s.InRange n) :
    ∃ r, restrict s whole = .ok r ∧ Follows (Guarded.restrict s whole) (.ok r) := by
  cases whole with
  | cell c => exact ⟨_, rfl, .pure _⟩
  | table u => exact ⟨_, rfl, (takeRows_follows h hs.lt).bind_ok (.pure _)⟩
  | column c =>
    have htake : Follows (Guarded.take c s.positions) (.ok (c.take s.positions)) :=
      take_follows fun r hm => (show c.size = n from h).symm ▸ hs.lt r hm
    cases s with
    | rows positions => exact ⟨_, rfl, htake.bind_ok (.pure _)⟩
    | mask flags => exact ⟨_, rfl, htake.bind_ok (.pure _)⟩
    | single row =>
      have hrow : row < c.size := (show c.size = n from h).symm ▸ hs.lt row List.mem_cons_self
      obtain ⟨x, hx⟩ := c.exists_cell? hrow
      refine ⟨.cell x, ?_, ?_⟩
      · simp only [restrict, pick, hx]
      · simp only [Guarded.restrict, Guarded.pick, hx]
        exact .pure _

theorem rows_follows [Externals] (h : t.WellFormed) (hn : t.rowCount ≤ maxRows) (sel : Selector) :
    Follows (Guarded.rows t sel) (t.rows sel) :=
  (select_follows (source_sound h) hn sel false).bind fun _ hs => takeRows_follows h.size_eq (select_inRange hs).lt

theorem getAt_follows [Externals] (h : t.WellFormed) (hn : t.rowCount ≤ maxRows) (columns : Columns) (sel : Selector) :
    Follows (Guarded.getAt t columns sel) (t.getAt columns sel) := by
  refine (Follows.plain _).bind fun whole hw => ?_
  refine (select_follows (source_sound h) hn sel true).bind fun s hs => ?_
  obtain ⟨r, hr, hfollows⟩ := restrict_eq_ok (get_sized h hw) (select_inRange hs)
  rw [hr]
  exact hfollows

/-- Columns at rows fail only as the columns do or as the rows do. -/
theorem getAt_eq_error [Externals] (h : t.WellFormed) {columns : Columns} {sel : Selector} {e : Error}
    (he : t.getAt columns sel = .error e) : t.get columns = .error e ∨ t.select sel = .error e := by
  rcases bind_eq_error.mp he with he | ⟨whole, hw, he⟩
  · exact Or.inl he
  · rcases bind_eq_error.mp he with he | ⟨s, hs, he⟩
    · exact Or.inr he
    · obtain ⟨r, hr, -⟩ := restrict_eq_ok (get_sized h hw) (select_inRange hs)
      rw [hr] at he
      cases he

/-- What a selector means in a table of no more than `maxRows` rows are rows of the table, and a mask has a flag for
each of them. Neither finding the rows nor reading columns or cells at them traps: with every access spelled out the
outcome is the same, unless a stage of a chain passes on more rows than memory holds. The one error of reading a cell
that is not there does not occur, and the labels of a directory are names in it. -/
theorem select_safe [Externals] (h : Reachable t) (hn : t.rowCount ≤ maxRows) (sel : Selector) :
    (∀ strict s, t.source.select sel strict = .ok s →
      (∀ p ∈ s.positions, p < t.rowCount) ∧ ∀ flags, s = .mask flags → flags.length = t.rowCount) ∧
    (∀ strict, Follows (Guarded.select t.source sel strict) (t.source.select sel strict)) ∧
    Follows (Guarded.rows t sel) (t.rows sel) ∧
    (∀ columns, Follows (Guarded.getAt t columns sel) (t.getAt columns sel)) ∧
    (∀ columns e, t.getAt columns sel = .error e → t.get columns = .error e ∨ t.select sel = .error e) ∧
    ∀ d, t.directory = .ok d → ∀ row, Follows (Guarded.label? d row) (.ok (d.label? row)) := by
  have hwf := h.wellFormed
  have hs := source_sound hwf
  refine ⟨fun strict s hsel => ?_, select_follows hs hn sel, rows_follows hwf hn sel,
    fun columns => getAt_follows hwf hn columns sel, fun columns e => getAt_eq_error hwf, fun d hd row => ?_⟩
  · have hin := select_inRange hsel
    exact ⟨hin.lt, hin.length_eq⟩
  · obtain ⟨c, version, -, rfl⟩ := hs.directory_eq d hd
    exact label?_follows (Directory.build_lists c version) row

/-- In the reversed table a name range runs from the `ip2` that is now the first one to `ip1`. -/
theorem select_safe_lattice :
    lattice.rowCount ≤ maxRows ∧
      lattice.source.select (.chain [.slice none none (some (-1)), .nameRange (some "ip2") (some "ip1")]) true =
        .ok (.rows [2, 1, 0]) ∧
      Follows (Guarded.select lattice.source
        (.chain [.slice none none (some (-1)), .nameRange (some "ip2") (some "ip1")]) true)
        (.ok (.rows [2, 1, 0])) := by
  have hn : lattice.rowCount ≤ maxRows := by decide
  have hs : lattice.source.select (.chain [.slice none none (some (-1)), .nameRange (some "ip2") (some "ip1")]) true =
      .ok (.rows [2, 1, 0]) := rfl
  have h := (select_safe lattice_reachable hn
    (.chain [.slice none none (some (-1)), .nameRange (some "ip2") (some "ip1")])).2.1 true
  rw [hs] at h
  exact ⟨hn, hs, h⟩

end Table

end NamedRows
