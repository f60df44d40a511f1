import NamedRows.Proofs.Table.Named
import NamedRows.Externals.Standard

/-!
# Selectors of one row

In a table with a key column, addresses and positions select exactly the row that they mean, and fail where they mean
none (`OneRow`, `Table.select_exact`). With every access spelled out it is the same: the casts and sums on the way trap
nowhere (`Table.guarded_select_address`, `Table.guarded_select_index`).
-/

namespace NamedRows

/-- What is selected is the one row that is meant, or if none is, an index is out of range. -/
structure OneRow (selected : Except Error Selection) (meant : Nat → Prop) : Prop where
  single_iff (row : Nat) : selected = .ok (.single row) ↔ meant row
  failure : (∀ row, ¬ meant row) → ∃ e, selected = .error e ∧ e.family = .index

/-- A computation of a row that fails only where an index is out of range. -/
theorem OneRow.of_row {x : Except Error Nat} {meant : Nat → Prop} (hok : ∀ row, x = .ok row ↔ meant row)
    (herror : ∀ e, x = .error e → e.family = .index) : OneRow (x.map .single) meant where
  single_iff row := by
    rw [map_eq_ok, ← hok]
    simp only [Selection.single.injEq, exists_eq_right]
  failure hnone := by
    cases hx : x with
    | error e => exact ⟨e, rfl, herror e hx⟩
    | ok row => exact absurd ((hok row).mp hx) (hnone row)

namespace Table

variable {t : Table Column} {strict : Bool}

/-! ## Nothing wraps -/

theorem guarded_select_index [Externals] (hsize : t.rowCount ≤ maxRows) (i : Int64) :
    Guarded.select t.source (.index i) strict = Guarded.plain (t.source.select (.index i) strict) := by
  show Guarded.resolveIndex t.source {} i >>= (fun row => pure (Selection.single row)) =
    Guarded.plain ((resolveIndex t.source {} i).map .single)
  have hsize' : Window.size {} t.source = t.rowCount := rfl
  unfold Guarded.resolveIndex resolveIndex
  rw [hsize', entryIndex_eq hsize, pure_bind]
  cases entryIndex i t.rowCount <;> rfl

theorem guarded_select_address [Externals] {d : Directory} {names : List String} (hd : t.directory = .ok d)
    (h : d.Lists names) (hsize : names.length ≤ maxRows) (a : Address) :
    Guarded.select t.source (.address a) strict = Guarded.plain (t.source.select (.address a) strict) := by
  rw [select_address hd]
  show (Guarded.plain t.directory >>= fun d => Guarded.exactRow d a t.rowCount >>= fun row =>
    pure (Selection.single row)) = _
  rw [hd]
  show (Guarded.exactRow d a t.rowCount >>= fun row => pure (Selection.single row)) = _
  rw [exactRow_eq h hsize]
  cases exactRow d a t.rowCount <;> rfl

/-! ## Every selector of one row -/

/-- In a table with a key column, of as many rows as can be counted, an address means the row that is exactly its shift
after the occurrence that it names, and a position the row that it counts from either end; without such a row an index
is out of range, and a name that does not occur is undefined. An occurrence is there if its number, or its number from
the last one, is below that of the name's rows. The sums and casts on the way trap nowhere. -/
theorem select_exact [Externals] (h : Reachable t) {c : Column} (hc : t.column? t.config.key = some c)
    (hsize : t.rowCount ≤ maxRows) (strict : Bool) :
    (∀ a : Address, a.name ∉ c.labels → t.source.select (.address a) strict = .error (.undefined a.name)) ∧
    (∀ a : Address, a.name ∈ c.labels → OneRow (t.source.select (.address a) strict) fun r =>
      ∃ row, IsOccurrence c.labels.toList a.name (a.occurrence.getD 0).toInt row ∧ (row : Int) + a.shift.toInt = r ∧
        r < t.rowCount) ∧
    (∀ (name : String) (k : Int64), (∃ row, IsOccurrence c.labels.toList name k.toInt row) ↔
      1 ≤ c.labels.toList.count name ∧ -(c.labels.toList.count name : Int) ≤ k.toInt ∧
        k.toInt < c.labels.toList.count name) ∧
    (∀ i : Int64, OneRow (t.source.select (.index i) strict) fun r =>
      r < t.rowCount ∧ (i.toInt = r ∨ i.toInt = r - t.rowCount)) ∧
    (∀ a, Guarded.select t.source (.address a) strict = Guarded.plain (t.source.select (.address a) strict)) ∧
    ∀ i, Guarded.select t.source (.index i) strict = Guarded.plain (t.source.select (.index i) strict) := by
  have hwf := h.wellFormed
  obtain ⟨d, hd, hlists⟩ := exists_directory hwf hc
  have hlength := hwf.length_labels hc
  refine ⟨fun a hm => ?_, fun a hm => ?_, fun name k => exists_isOccurrence_iff, fun i => ?_,
    guarded_select_address hd hlists (hlength ▸ hsize), guarded_select_index hsize⟩
  · rw [select_address hd, exactRow_undefined hlists fun hl => hm (Array.mem_def.mpr hl)]
    rfl
  · rw [select_address hd]
    exact .of_row (fun r => exactRow_eq_ok hlists hsize) fun e => family_of_exactRow hlists (Array.mem_def.mp hm)
  · exact .of_row (fun r => resolveIndex_eq_ok) fun e => family_of_resolveIndex

/-- Two rows before the last `ip2` is the first row, and as far after it as 64 bits count there is none. Five rows from
the end is the first row, and the least position counts beyond it. -/
theorem select_exact_lattice :
    lattice.column? lattice.config.key = some (.text #["ip1", "ip2", "ip2", "ip3", "tab$end"]) ∧
      lattice.rowCount ≤ maxRows ∧ lattice.select (.address ⟨"ip2", some (-1), -2⟩) = .ok (.single 0) ∧
      (∃ e, lattice.select (.address ⟨"ip2", some (-1), Int64.maxValue⟩) = .error e ∧ e.family = .index) ∧
      lattice.select (.index (-5)) = .ok (.single 0) ∧
      ∃ e, lattice.select (.index Int64.minValue) = .error e ∧ e.family = .index := by
  have hc : lattice.column? lattice.config.key = some (.text #["ip1", "ip2", "ip2", "ip3", "tab$end"]) := rfl
  have hsize : lattice.rowCount ≤ maxRows := by decide
  have hm : "ip2" ∈ (Column.text #["ip1", "ip2", "ip2", "ip3", "tab$end"]).labels := by simp [Column.labels]
  have hcount : lattice.rowCount = 5 := rfl
  have hmax : Int64.maxValue.toInt = 9223372036854775807 := rfl
  have hmin : Int64.minValue.toInt = -9223372036854775808 := rfl
  obtain ⟨-, haddress, -, hindex, -⟩ := select_exact lattice_reachable hc hsize true
  refine ⟨hc, hsize, ?_, (haddress ⟨"ip2", some (-1), Int64.maxValue⟩ hm).failure ?_, ?_,
    (hindex Int64.minValue).failure ?_⟩
  · exact ((haddress ⟨"ip2", some (-1), -2⟩ hm).single_iff 0).mpr ⟨2, ⟨rfl, by decide⟩, by decide, by decide⟩
  · rintro r ⟨row, -, hsum, hr⟩
    simp only at hsum
    omega
  · exact ((hindex (-5)).single_iff 0).mpr ⟨by decide, Or.inr (by decide)⟩
  · rintro r ⟨hr, hi⟩
    omega

end Table

end NamedRows
