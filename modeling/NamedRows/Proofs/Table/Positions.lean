import Mathlib.Algebra.Order.Ring.Int
import NamedRows.Proofs.Table.Exact
import NamedRows.Proofs.Table.Ranges
import NamedRows.Externals.Standard

/-!
# Positions in other forms

Positions that come in other forms are turned into indices and slices before the number of rows is known. A slice of
step one is an interval of rows (`slice_unit`), and so a range of signed positions selects the rows between its ends,
with the last one or without it, however the signs of the ends fall (`Table.select_bounded`).

An unsigned position becomes the signed one with the same bits, and a negative position counts from the end. So an
unsigned position selects its own row as long as it is less than `2 ^ 64` by more than the number of rows, and some row
near the end if it is not (`Table.select_unsigned`, `Table.select_unsigned_wrapped`).
-/

namespace NamedRows

/-- A position counted from the first of `size` rows. A negative one counts from the end. -/
def counted (size : Nat) (p : Int64) : Int := if p.toInt < 0 then p.toInt + size else p.toInt

/-! ## Slices of step one -/

theorem progression_one {first : Int} (h : 0 ≤ first) (count : Nat) :
    progression first 1 count = List.range' first.toNat count := by
  rw [progression, List.range'_eq_map_range]
  refine List.map_congr_left fun k _ => ?_
  omega

theorem stepsWithin_one (distance : Int) : stepsWithin distance 1 = distance.toNat := by
  rw [stepsWithin, Int.ediv_one]
  omega

/-- A bound lies where it counts to, or at the end of the rows that is nearest to that. -/
theorem sliceBound_counted (size : Nat) (bound : Int64) :
    sliceBound size 0 size bound = max 0 (min (counted size bound) size) := by
  have hneg : bound < 0 ↔ bound.toInt < 0 := Int64.lt_iff_toInt_lt
  simp only [sliceBound, counted, hneg]

/-- A slice of step one holds the rows from its start on that come before its stop. -/
theorem slice_unit (size : Nat) (start : Int64) (stop : Option Int64) :
    slice size (some start) stop none =
      .ok (interval size (counted size start) ((stop.map (counted size)).getD size - 1)) := by
  have hstop : (stop.map (sliceBound size 0 size)).getD (size : Int) =
      max 0 (min ((stop.map (counted size)).getD size) size) := by
    cases stop with
    | none => exact (by omega : (size : Int) = max 0 (min (size : Int) size))
    | some b => exact sliceBound_counted size b
  have hfirst : 0 ≤ max 0 (min (counted size start) size) := by omega
  have hwidth : ((none : Option Int64).getD 1).toInt = 1 := rfl
  unfold slice
  simp only [hwidth, Option.map_some, Option.getD_some, hstop, sliceBound_counted, progression_one hfirst,
    stepsWithin_one]
  refine congrArg Except.ok (eq_interval List.pairwise_lt_range' fun row => ?_)
  rw [List.mem_range'_1]
  omega

/-- Up to the position after one is up to that one, for as many rows as can be counted. The last position has none
after it but the end of the rows, and from the greatest one on there are no rows. -/
theorem interval_afterLast {size : Nat} (hsize : size ≤ maxRows) (low : Int) (b : Int64) :
    interval size low (((Selector.afterLast b).map (counted size)).getD size - 1) =
      interval size low (counted size b) := by
  have hmax := maxRows_eq
  refine eq_interval (pairwise_interval _ _ _) fun row => ?_
  rw [mem_interval]
  unfold Selector.afterLast
  split
  case isTrue hlast =>
    have hb : b.toInt = -1 := congrArg Int64.toInt hlast
    simp only [Option.map_none, Option.getD_none, counted, hb]
    omega
  case isFalse hlast =>
    have hb : b.toInt ≠ -1 := fun h => hlast (Int64.toInt_inj.mp h)
    split
    case isTrue hgreatest =>
      have hb : b.toInt = Int64.maxValue.toInt := congrArg Int64.toInt hgreatest
      simp only [Option.map_some, Option.getD_some, counted, hb]
      omega
    case isFalse hgreatest =>
      have hlt : b.toInt < Int64.maxValue.toInt :=
        lt_of_le_of_ne (Int64.toInt_le b) fun h => hgreatest (Int64.toInt_inj.mp h)
      have hnext : (b + 1).toInt = b.toInt + 1 := by
        have hleast : -2 ^ 63 ≤ b.toInt := Int64.le_toInt b
        have hgreatest : Int64.maxValue.toInt = 2 ^ 63 - 1 := Int64.toInt_maxValue
        rw [Int64.toInt_add, Int64.toInt_one]
        exact Int.bmod_eq_of_le (by omega) (by omega)
      simp only [Option.map_some, Option.getD_some, counted, hnext]
      omega

/-! ## Unsigned positions -/

theorem maxRows_eq_pow : maxRows = 2 ^ 63 - 1 := by decide

/-- The signed number with the bits of an unsigned one. -/
theorem toInt_toInt64 (u : UInt64) :
    u.toInt64.toInt = if u.toNat < 2 ^ 63 then (u.toNat : Int) else u.toNat - 2 ^ 64 := by
  have hbits : u.toInt64.toInt = u.toBitVec.toInt := rfl
  have hnat : u.toBitVec.toNat = u.toNat := rfl
  rw [hbits, BitVec.toInt_eq_toNat_cond, hnat]
  split <;> split <;> omega

/-- Of `size` rows, as many as can be counted, an unsigned position means its own row, or the one that it counts from
the end by as much as it is less than `2 ^ 64`. -/
theorem unsigned_row_iff {u : UInt64} {size row : Nat} (hsize : size ≤ maxRows) :
    row < size ∧ (u.toInt64.toInt = row ∨ u.toInt64.toInt = row - size) ↔
      row < size ∧ (u.toNat = row ∨ u.toNat + size = 2 ^ 64 + row) := by
  have hmax := maxRows_eq_pow
  have hu : u.toNat < 2 ^ 64 := u.toNat_lt
  rw [toInt_toInt64]
  split <;> omega

namespace Table

variable {t : Table Column}

/-! ## Ranges of positions -/

theorem select_slice_unit [Externals] (t : Table Column) (start : Int64) (stop : Option Int64) (strict : Bool) :
    t.source.select (.slice (some start) stop none) strict =
      .ok (.rows (interval t.rowCount (counted t.rowCount start)
        ((stop.map (counted t.rowCount)).getD t.rowCount - 1))) := by
  show (NamedRows.slice t.rowCount (some start) stop none >>= fun rows => Except.ok (Selection.rows (rows.map id))) = _
  rw [slice_unit, ok_bind, List.map_id]

/-- With every access spelled out it is the same: the casts and sums on the way trap nowhere. -/
theorem guarded_select_slice [Externals] (hsize : t.rowCount ≤ maxRows) (start stop step : Option Int64)
    (strict : Bool) :
    Guarded.select t.source (.slice start stop step) strict =
      Guarded.plain (t.source.select (.slice start stop step) strict) := by
  show Guarded.slice t.rowCount start stop step >>= (fun rows =>
      rows.mapM (fun row => (pure row : Guarded Nat)) >>= fun rows => pure (Selection.rows rows)) =
    Guarded.plain (NamedRows.slice t.rowCount start stop step >>= fun rows => Except.ok (Selection.rows (rows.map id)))
  rw [slice_eq hsize]
  cases NamedRows.slice t.rowCount start stop step with
  | error e => rfl
  | ok rows =>
    rw [ok_bind, List.map_id]
    show rows.mapM (fun row => (pure row : Guarded Nat)) >>= (fun rows => pure (Selection.rows rows)) = _
    rw [List.mapM_pure, pure_bind, List.map_id']
    rfl

/-- A range of signed positions selects the rows between its ends, ascending: with the row of its end, or without it.
Each end may be counted from either side, and lie outside the table. No sum or cast on the way traps. -/
theorem select_bounded [Externals] (hsize : t.rowCount ≤ maxRows) (a b : Int64) (strict : Bool) :
    t.source.select (.closed a b) strict =
        .ok (.rows ((List.range t.rowCount).filter fun (p : Nat) =>
          counted t.rowCount a ≤ p ∧ p ≤ counted t.rowCount b)) ∧
      t.source.select (.halfOpen a b) strict =
        .ok (.rows ((List.range t.rowCount).filter fun (p : Nat) =>
          counted t.rowCount a ≤ p ∧ p < counted t.rowCount b)) ∧
      Guarded.select t.source (.closed a b) strict = Guarded.plain (t.source.select (.closed a b) strict) ∧
      Guarded.select t.source (.halfOpen a b) strict = Guarded.plain (t.source.select (.halfOpen a b) strict) := by
  refine ⟨?_, ?_, guarded_select_slice hsize _ _ _ strict, guarded_select_slice hsize _ _ _ strict⟩
  · rw [Selector.closed, select_slice_unit, interval_afterLast hsize]
    rfl
  · rw [Selector.halfOpen, select_slice_unit]
    refine congrArg (fun rows => Except.ok (Selection.rows rows)) (List.filter_congr fun p _ => ?_)
    simp only [Option.map_some, Option.getD_some, Int.le_sub_one_iff]

/-- Between the second row and the last one, counted from either side, and up to the greatest position. Where the ends
have changed places there are no rows. -/
theorem select_bounded_lattice :
    lattice.rowCount ≤ maxRows ∧ lattice.select (.closed 1 (-1)) = .ok (.rows [1, 2, 3, 4]) ∧
      lattice.select (.closed (-4) Int64.maxValue) = .ok (.rows [1, 2, 3, 4]) ∧
      lattice.select (.halfOpen (-4) (-1)) = .ok (.rows [1, 2, 3]) ∧
      lattice.select (.closed (-1) (-6)) = .ok (.rows []) := by
  have hsize : lattice.rowCount ≤ maxRows := by decide
  exact ⟨hsize, (select_bounded hsize 1 (-1) true).1, (select_bounded hsize (-4) Int64.maxValue true).1,
    (select_bounded hsize (-4) (-1) true).2.1, (select_bounded hsize (-1) (-6) true).1⟩

/-! ## Selecting by unsigned positions -/

/-- An unsigned position selects its own row, or the row that it counts from the end when it is taken for a signed one;
without such a row an index is out of range. So it selects its own row or none exactly as long as it and the number of
rows are less than `2 ^ 64` together. Nothing on the way traps, since the position wraps before it is looked at. -/
theorem select_unsigned [Externals] (hsize : t.rowCount ≤ maxRows) (u : UInt64) (strict : Bool) :
    (OneRow (t.source.select (.ofUnsigned u) strict) fun r =>
      r < t.rowCount ∧ (u.toNat = r ∨ u.toNat + t.rowCount = 2 ^ 64 + r)) ∧
    ((OneRow (t.source.select (.ofUnsigned u) strict) fun r => r < t.rowCount ∧ u.toNat = r) ↔
      u.toNat + t.rowCount < 2 ^ 64) ∧
    Guarded.select t.source (.ofUnsigned u) strict = Guarded.plain (t.source.select (.ofUnsigned u) strict) := by
  have hmax := maxRows_eq_pow
  have hone : OneRow (t.source.select (.ofUnsigned u) strict) fun r =>
      r < t.rowCount ∧ (u.toNat = r ∨ u.toNat + t.rowCount = 2 ^ 64 + r) :=
    .of_row (fun r => resolveIndex_eq_ok.trans (unsigned_row_iff hsize)) fun e => family_of_resolveIndex
  refine ⟨hone, ⟨fun hown => ?_, fun hlt => ?_⟩, guarded_select_index hsize u.toInt64⟩
  · -- a row counted from the end is not the position's own row
    refine Decidable.byContradiction fun hwraps => ?_
    have hu : u.toNat < 2 ^ 64 := u.toNat_lt
    have hrow := (hone.single_iff (u.toNat + t.rowCount - 2 ^ 64)).mpr (by omega)
    have hsame := (hown.single_iff _).mp hrow
    omega
  · have hmeant : (fun r => r < t.rowCount ∧ u.toNat = r) = fun r =>
        r < t.rowCount ∧ (u.toNat = r ∨ u.toNat + t.rowCount = 2 ^ 64 + r) := by
      funext r
      refine propext ?_
      omega
    rw [hmeant]
    exact hone

/-- The last row by its own position, and no row by the one after it. The greatest position from which five rows do not
count back into the table selects no row either. -/
theorem select_unsigned_lattice :
    lattice.rowCount ≤ maxRows ∧ lattice.select (.ofUnsigned 4) = .ok (.single 4) ∧
      (∃ e, lattice.select (.ofUnsigned 5) = .error e ∧ e.family = .index) ∧
      ∃ e, lattice.select (.ofUnsigned 18446744073709551610) = .error e ∧ e.family = .index := by
  have hsize : lattice.rowCount ≤ maxRows := by decide
  have hcount : lattice.rowCount = 5 := rfl
  have hown (u : UInt64) (hu : u.toNat + lattice.rowCount < 2 ^ 64) :
      OneRow (lattice.select (.ofUnsigned u)) fun r => r < lattice.rowCount ∧ u.toNat = r :=
    (select_unsigned hsize u true).2.1.mpr hu
  refine ⟨hsize, ((hown 4 (by decide)).single_iff 4).mpr (by decide), (hown 5 (by decide)).failure ?_,
    (hown 18446744073709551610 (by decide)).failure ?_⟩
  · rintro r ⟨hr, hu⟩
    have hfive : (5 : UInt64).toNat = 5 := rfl
    omega
  · rintro r ⟨hr, hu⟩
    have hgreat : (18446744073709551610 : UInt64).toNat = 18446744073709551610 := rfl
    omega

/-- The greatest unsigned position is far outside five rows, and selects the last of them. -/
theorem select_unsigned_wrapped :
    Reachable lattice ∧ ¬ (18446744073709551615 : UInt64).toNat < lattice.rowCount ∧
      lattice.select (.ofUnsigned 18446744073709551615) = .ok (.single 4) :=
  ⟨lattice_reachable, by decide, rfl⟩

end Table

end NamedRows
