import NamedRows.Proofs.Cell.Order
import NamedRows.Proofs.Row.Stages

/-!
# Value ranges as filters

A value range that fits a source (`ValueRange.Fits`) keeps, of whatever rows it sees, those whose cell lies between its
bounds (`ValueRange.Holds`), in their order and multiplicity (`ValueRange.Fits.resolve_eq`). Whether it fits does not
depend on the rows. So value ranges after one another (`Selector.within`) are one filter (`positions_within_of_fits`),
their order does not matter, and a range is as good as its two halves (`ValueRange.forall_holds_halves`).
-/

namespace NamedRows

/-- Bounds for the cells of a column. -/
structure ValueRange where
  column : String
  low : Option Cell
  high : Option Cell

namespace ValueRange

/-- The selector for the rows in a range. -/
def selector (r : ValueRange) : Selector := .valueRange r.column r.low r.high

/-- The range without its high bound. -/
def lowHalf (r : ValueRange) : ValueRange := { r with high := none }

/-- The range without its low bound. -/
def highHalf (r : ValueRange) : ValueRange := { r with low := none }

/-- The column is there, and its cells can be compared with the bounds. -/
def Fits (src : Source) (r : ValueRange) : Prop :=
  ∃ column, src.column? r.column = some column ∧ checkBound r.column column r.low = .ok () ∧
    checkBound r.column column r.high = .ok ()

/-- The cell in a row is at least the low bound and at most the high one, as far as they are given. -/
def Holds (src : Source) (r : ValueRange) (row : Nat) : Prop :=
  ∃ column cell, src.column? r.column = some column ∧ column.cell? row = some cell ∧
    (∀ bound ∈ r.low, bound ≤ cell) ∧ ∀ bound ∈ r.high, cell ≤ bound

variable {src : Source} {r : ValueRange} {column : Column} {row : Nat}

theorem holds_iff_of_cell (hc : src.column? r.column = some column) {cell : Cell} (hcell : column.cell? row = some cell) :
    r.Holds src row ↔ (∀ bound ∈ r.low, bound ≤ cell) ∧ ∀ bound ∈ r.high, cell ≤ bound := by
  simp only [Holds, hc, Option.some.injEq, exists_and_left, exists_eq_left', hcell]

theorem holds_iff (hc : src.column? r.column = some column) :
    r.Holds src row ↔ (column.cell? row).any (isWithin r.low r.high) = true := by
  cases hcell : column.cell? row with
  | some cell => exact (holds_iff_of_cell hc hcell).trans isWithin_iff.symm
  | none =>
    refine ⟨?_, nofun⟩
    rintro ⟨_, _, hc', hcell', -⟩
    cases hc.symm.trans hc'
    cases hcell.symm.trans hcell'

instance (src : Source) (r : ValueRange) : DecidablePred (r.Holds src) := fun row =>
  match hc : src.column? r.column with
  | none => isFalse fun ⟨_, _, hc', _⟩ => by rw [hc] at hc'; cases hc'
  | some _ => decidable_of_iff _ (holds_iff hc).symm

/-- A range holds if both of its halves do. -/
theorem holds_iff_halves : r.Holds src row ↔ r.lowHalf.Holds src row ∧ r.highHalf.Holds src row := by
  constructor
  · rintro ⟨column, cell, hc, hcell, hlow, hhigh⟩
    exact ⟨⟨column, cell, hc, hcell, hlow, nofun⟩, ⟨column, cell, hc, hcell, nofun, hhigh⟩⟩
  · rintro ⟨⟨column, cell, hc, hcell, hlow, -⟩, ⟨column', cell', hc', hcell', -, hhigh⟩⟩
    cases hc.symm.trans hc'
    cases hcell.symm.trans hcell'
    exact ⟨column, cell, hc, hcell, hlow, hhigh⟩

/-- Among other ranges as well, the two halves of a range can stand in its place. -/
theorem forall_holds_halves {rest : List ValueRange} :
    (∀ r' ∈ r.lowHalf :: r.highHalf :: rest, r'.Holds src row) ↔ ∀ r' ∈ r :: rest, r'.Holds src row := by
  rw [List.forall_mem_cons, List.forall_mem_cons, List.forall_mem_cons, holds_iff_halves (r := r), and_assoc]

/-! ## What fits -/

theorem Fits.lowHalf (h : r.Fits src) : r.lowHalf.Fits src := by
  obtain ⟨column, hc, hlow, -⟩ := h
  exact ⟨column, hc, hlow, rfl⟩

theorem Fits.highHalf (h : r.Fits src) : r.highHalf.Fits src := by
  obtain ⟨column, hc, -, hhigh⟩ := h
  exact ⟨column, hc, rfl, hhigh⟩

/-- A range that fits keeps the rows of the window in which it holds. -/
theorem Fits.resolve_eq [Externals] (h : r.Fits src) (strict : Bool) (w : Window) :
    resolve src strict w r.selector = .ok (.rows ((w.all src).filter fun row => r.Holds src row)) := by
  obtain ⟨column, hc, hlow, hhigh⟩ := h
  show resolveValueRange src w r.column r.low r.high = _
  simp only [resolveValueRange, hc, hlow, hhigh, holds_iff hc, Bool.decide_eq_true]
  rfl

/-- A range that selects anything at all, be it no rows, fits. -/
theorem fits_of_resolve [Externals] {strict : Bool} {w : Window} {s : Selection}
    (h : resolve src strict w r.selector = .ok s) :
    r.Fits src := by
  have h : resolveValueRange src w r.column r.low r.high = .ok s := h
  unfold resolveValueRange at h
  cases hc : src.column? r.column with
  | none =>
    rw [hc] at h
    cases h
  | some column =>
    rw [hc] at h
    obtain ⟨_, hlow, h⟩ := bind_eq_ok.mp h
    obtain ⟨_, hhigh, -⟩ := bind_eq_ok.mp h
    exact ⟨column, hc, hlow, hhigh⟩

end ValueRange

/-! ## Ranges one after another -/

/-- The rows of a selector that lie in each of some ranges: a chain that takes one range after another. -/
def Selector.within (a : Selector) (ranges : List ValueRange) : Selector := .chain (a :: ranges.map ValueRange.selector)

section Ranges

variable [Externals] {src : Source} {strict : Bool} {a : Selector} {ps : List Nat} {ranges others : List ValueRange}

/-- Stages that are ranges pass on the rows in which all of them hold. -/
theorem foldlM_valueRanges (strict : Bool) (h : ∀ r ∈ ranges, r.Fits src) (ps : List Nat) :
    (ranges.map ValueRange.selector).foldlM (src.advance strict) ps =
      .ok (ps.filter fun row => ∀ r ∈ ranges, r.Holds src row) := by
  induction ranges generalizing ps with
  | nil =>
    have hall : (ps.filter fun row => ∀ r ∈ ([] : List ValueRange), r.Holds src row) = ps := by simp
    exact congrArg Except.ok hall.symm
  | cons r ranges ih =>
    have hstage : src.advance strict ps r.selector = .ok (ps.filter fun row => r.Holds src row) := by
      unfold Source.advance
      rw [(h r List.mem_cons_self).resolve_eq]
      rfl
    rw [List.map_cons, List.foldlM_cons, hstage, ok_bind, ih fun r' hr' => h r' (List.mem_cons_of_mem _ hr'),
      List.filter_filter]
    simp [Bool.and_comm]

/-- Of the rows of a selector, those in which all of the ranges hold, in their order and multiplicity. -/
theorem positions_within_of_fits (ha : src.positions a strict = .ok ps) (h : ∀ r ∈ ranges, r.Fits src) :
    src.positions (a.within ranges) strict = .ok (ps.filter fun row => ∀ r ∈ ranges, r.Holds src row) := by
  rw [Selector.within, positions_chain_cons, ha, ok_bind, foldlM_valueRanges strict h]

/-- Ranges that hold in the same rows select the same rows. -/
theorem positions_within_congr (ha : src.positions a strict = .ok ps) (hothers : ∀ r ∈ others, r.Fits src)
    (hranges : ∀ r ∈ ranges, r.Fits src)
    (h : ∀ row, (∀ r ∈ others, r.Holds src row) ↔ ∀ r ∈ ranges, r.Holds src row) :
    src.positions (a.within others) strict = src.positions (a.within ranges) strict := by
  rw [positions_within_of_fits ha hothers, positions_within_of_fits ha hranges]
  simp only [h]

end Ranges

end NamedRows
