import NamedRows.Proofs.Expr.Sampled
import NamedRows.Proofs.Row.Lenient
import NamedRows.Proofs.Table.Chain
import NamedRows.Externals.Standard

/-!
# Columns first or rows first

Cells can be read by taking columns and then rows (`Table.getAt`), or by taking rows and then columns of the table they
make. Whole columns of some rows of a table are the whole columns of the table at these rows, also when they are
computed (`get_sampled`), so both ways agree, up to the form a single cell has (`getAt_rows`).
-/

namespace NamedRows

/-- The second reading is the first one at the rows `ps`. -/
inductive Reading.Sampled (n : Nat) (ps : List Nat) : Reading Column → Reading Column → Prop
  | cell (c : Cell) : Sampled n ps (.cell c) (.cell c)
  | column {c : Column} : c.size = n → Sampled n ps (.column c) (.column (c.take ps))
  | table (t : Table Column) : Sampled n ps (.table t) (.table (t.takeRows ps))

namespace Table

variable {t : Table Column} {ps : List Nat}

/-! ## Several columns -/

theorem names_takeRows (t : Table Column) (ps : List Nat) : (t.takeRows ps).names = t.names := by
  simp [names, takeRows, derived, Function.comp_def]

theorem selected_takeRows (t : Table Column) (ps : List Nat) (names : List String) :
    (t.takeRows ps).selected names = (t.selected names).map fun p => (p.1, p.2.take ps) := by
  simp only [selected, List.map_filterMap, column?_takeRows, Option.map_map, Function.comp_def]
  rfl

/-- Columns of taken rows are taken rows of columns. -/
theorem cols_takeRows (t : Table Column) (ps : List Nat) (names : List String) :
    (t.takeRows ps).cols names = (t.cols names).map fun s => s.takeRows ps := by
  unfold cols
  rw [badName?_congr (names_takeRows t ps)]
  cases t.badName? .duplicateColumn [] names with
  | some e => rfl
  | none =>
    show Except.ok (derived _ ((t.takeRows ps).selected names)) = .ok _
    rw [selected_takeRows]
    rfl

/-! ## Whole columns -/

theorem computed_sampled [Externals] (h : t.WellFormed) (hp : ∀ p ∈ ps, p < t.rowCount) (text : String) :
    Parallel (Computed.Sampled t.rowCount ps) (t.computed text) ((t.takeRows ps).computed text) := by
  unfold computed
  rw [column?_takeRows]
  cases hc : t.column? text with
  | some c => exact .ok (.column (h.size_column hc))
  | none =>
    show Parallel _ (Expr.evaluate t.column? text) (Expr.evaluate (t.takeRows ps).column? text)
    rw [funext (column?_takeRows t ps)]
    exact Expr.evaluate_sampled (fun _ _ => h.size_column) hp text

/-- What is read from some rows of a table is what is read from the table, at these rows, or the same error. -/
theorem get_sampled [Externals] (h : t.WellFormed) (hp : ∀ p ∈ ps, p < t.rowCount) (columns : Columns) :
    Parallel (Reading.Sampled t.rowCount ps) (t.get columns) ((t.takeRows ps).get columns) := by
  cases columns with
  | one text =>
    refine (computed_sampled h hp text).bind fun c d hcd => ?_
    cases hcd with
    | cell c => exact .ok (.cell c)
    | column hs => exact .ok (.column hs)
  | many names =>
    show Parallel _ (t.cols names >>= _) ((t.takeRows ps).cols names >>= _)
    rw [cols_takeRows]
    cases t.cols names with
    | error e => exact .error e
    | ok s => exact .ok (.table s)

/-! ## Columns at rows -/

theorem getAt_eq [Externals] {sel : Selector} {s : Selection} (hs : t.select sel = .ok s) (columns : Columns) :
    t.getAt columns sel = t.get columns >>= restrict s := by
  unfold getAt
  rw [hs]
  rfl

/-- One row of a column is one cell. -/
theorem pick_single {c : Column} {row : Nat} (hr : row < c.size) :
    (c.take [row]).size = 1 ∧ ∃ x, (c.take [row]).cell? 0 = some x ∧ pick c (.single row) = .ok (.cell x) := by
  have hr' : ∀ r ∈ [row], r < c.size := fun r hm => List.mem_singleton.mp hm ▸ hr
  obtain ⟨x, hx⟩ := c.exists_cell? hr
  refine ⟨Column.size_take hr', x, ?_, ?_⟩
  · rw [Column.cell?_take hr']
    exact hx
  · simp only [pick, hx]

/-- Reading columns at selected rows is reading columns of the table of these rows: with the same error if there is one,
and with the same cell, column or table, but for a column of a selection that means one row, which is read as its
cell. -/
theorem getAt_rows [Externals] (h : Reachable t) {sel : Selector} {s : Selection} (hs : t.select sel = .ok s)
    (columns : Columns) :
    ∃ sub, t.rows sel = .ok sub ∧
      (∀ e, t.getAt columns sel = .error e ↔ sub.get columns = .error e) ∧
      (∀ x, sub.get columns = .ok (.cell x) → t.getAt columns sel = .ok (.cell x)) ∧
      (∀ c, sub.get columns = .ok (.column c) →
        match s with
        | .single _ => c.size = 1 ∧ ∃ x, c.cell? 0 = some x ∧ t.getAt columns sel = .ok (.cell x)
        | .rows _ | .mask _ => t.getAt columns sel = .ok (.column c)) ∧
      ∀ u, sub.get columns = .ok (.table u) → t.getAt columns sel = .ok (.table u) := by
  have hp : ∀ p ∈ s.positions, p < t.rowCount := (select_inRange hs).lt
  refine ⟨t.takeRows s.positions, ?_, ?_⟩
  · unfold rows
    rw [select_lenient hs]
    rfl
  · -- the whole columns fail alike on both sides, or one is the other at the selected rows
    rw [getAt_eq hs]
    rcases (get_sampled h.wellFormed hp columns).error_or_ok with ⟨e, hw, hsub⟩ | ⟨whole, sampled, hw, hsub, hr⟩
    · rw [hw, hsub]
      exact ⟨fun _ => Iff.rfl, nofun, nofun, nofun⟩
    · rw [hw, hsub, ok_bind]
      cases hr with
      | cell c => exact ⟨fun _ => Iff.rfl, fun _ hx => hx, nofun, nofun⟩
      | table u => exact ⟨fun _ => Iff.rfl, nofun, nofun, fun _ hu => hu⟩
      | @column c hc =>
        cases s with
        | single row =>
          obtain ⟨hone, x, hx, hpick⟩ := pick_single (c := c) (hc.symm ▸ hp row List.mem_cons_self)
          have hrestrict : restrict (.single row) (.column c) = .ok (.cell x) := hpick
          rw [hrestrict]
          exact ⟨fun _ => ⟨nofun, nofun⟩, nofun, fun d hd => by cases hd; exact ⟨hone, x, hx, rfl⟩, nofun⟩
        | rows positions => exact ⟨fun _ => Iff.rfl, nofun, fun _ hd => hd, nofun⟩
        | mask flags => exact ⟨fun _ => Iff.rfl, nofun, fun _ hd => hd, nofun⟩

/-- The second `ip2` is in the row of the third turn. -/
theorem getAt_lattice :
    lattice.select (.name "ip2::1") = .ok (.single 2) ∧
      lattice.getAt (.one "turns") (.name "ip2::1") = .ok (.cell (.int 3)) := by
  have hs : lattice.select (.name "ip2::1") = .ok (.single 2) := rfl
  obtain ⟨sub, hsub, -, -, hcolumn, -⟩ := getAt_rows lattice_reachable hs (.one "turns")
  have hrows : lattice.rows (.name "ip2::1") = .ok (lattice.takeRows [2]) := rfl
  rw [hrows] at hsub
  cases hsub
  obtain ⟨-, x, hx, hcell⟩ := hcolumn (.int #[3]) rfl
  cases hx
  exact ⟨hs, hcell⟩

end Table

end NamedRows
