import NamedRows.Proofs.Row.ValueRanges
import NamedRows.Proofs.Table.WellFormed
import NamedRows.Externals.Standard

/-!
# Value ranges of tables

Value ranges after a selector keep, of its rows, those whose cells lie between the bounds, in any order of the ranges
(`Table.positions_within`).
-/

namespace NamedRows

namespace Table

variable {t : Table Column}

theorem fits_of_select [Externals] {strict : Bool} {r : ValueRange}
    (h : ∃ s, t.source.select r.selector strict = .ok s) :
    r.Fits t.source := h.elim fun _ hs => ValueRange.fits_of_resolve hs

/-- Value ranges that each select anything on their own, one after another behind a selector, keep of its rows those in
which all of them hold, in their order and as often as they are there. A range holds in a row if the cell there is at
least its low bound and at most its high one, as far as they are given; a NaN is neither. So the ranges may be put in any
order, and a range may be replaced by its two halves anywhere. -/
theorem positions_within [Externals] (h : Reachable t) {a : Selector} {strict : Bool} {ps : List Nat}
    (ha : t.source.positions a strict = .ok ps) {ranges : List ValueRange}
    (hranges : ∀ r ∈ ranges, ∃ s, t.source.select r.selector strict = .ok s) :
    t.source.positions (a.within ranges) strict = .ok (ps.filter fun row => ∀ r ∈ ranges, r.Holds t.source row) ∧
    (∀ row ∈ ps, ∀ r ∈ ranges, ∃ column cell, t.column? r.column = some column ∧ column.cell? row = some cell ∧
      (r.Holds t.source row ↔ (∀ bound ∈ r.low, bound ≤ cell) ∧ ∀ bound ∈ r.high, cell ≤ bound) ∧
      ∀ x, cell = .float x → x.isNaN = true → ∀ bound : Cell, ¬ bound ≤ cell ∧ ¬ cell ≤ bound) ∧
    (∀ others, others.Perm ranges →
      t.source.positions (a.within others) strict = t.source.positions (a.within ranges) strict) ∧
    ∀ r rest others, ranges.Perm (r :: rest) → others.Perm (r.lowHalf :: r.highHalf :: rest) →
      t.source.positions (a.within others) strict = t.source.positions (a.within ranges) strict := by
  have hfits : ∀ r ∈ ranges, r.Fits t.source := fun r hr => fits_of_select (hranges r hr)
  refine ⟨positions_within_of_fits ha hfits, fun row hrow r hr => ?_, fun others hperm => ?_,
    fun r rest others hperm hperm' => ?_⟩
  · obtain ⟨s, hs, rfl⟩ := map_eq_ok.mp ha
    obtain ⟨column, hc, -⟩ := hfits r hr
    have hlt : row < t.rowCount := (select_inRange hs).lt row hrow
    obtain ⟨cell, hcell⟩ := column.exists_cell? (Nat.lt_of_lt_of_eq hlt (h.wellFormed.size_column hc).symm)
    refine ⟨column, cell, hc, hcell, ValueRange.holds_iff_of_cell hc hcell, ?_⟩
    rintro x rfl hx bound
    exact (Cell.not_le_of_isNaN hx bound).symm
  · have hmem : ∀ r, r ∈ others ↔ r ∈ ranges := fun r => hperm.mem_iff
    exact positions_within_congr ha (fun r hr => hfits r ((hmem r).mp hr)) hfits fun row => by simp only [hmem]
  · have hhalves : ∀ r' ∈ r.lowHalf :: r.highHalf :: rest, r'.Fits t.source := by
      have hall : ∀ r' ∈ r :: rest, r'.Fits t.source := fun r' hr' => hfits r' (hperm.mem_iff.mpr hr')
      have hr := hall r List.mem_cons_self
      exact List.forall_mem_cons.mpr ⟨hr.lowHalf, List.forall_mem_cons.mpr ⟨hr.highHalf, (List.forall_mem_cons.mp hall).2⟩⟩
    refine positions_within_congr ha (fun r' hr' => hhalves r' (hperm'.mem_iff.mp hr')) hfits fun row => ?_
    have hsplit : (∀ r' ∈ r.lowHalf :: r.highHalf :: rest, r'.Holds t.source row) ↔
        ∀ r' ∈ r :: rest, r'.Holds t.source row := ValueRange.forall_holds_halves
    simpa only [hperm.mem_iff, hperm'.mem_iff] using hsplit

/-- Of the rows `4`, `1`, `1`, `3` and `0`, those in the turns two to four named `ip2` or above. The range of the names
can come first, and stand between the two halves of the range of the turns. -/
theorem positions_within_lattice :
    lattice.source.positions (.indices [4, 1, 1, 3, 0]) true = .ok [4, 1, 1, 3, 0] ∧
      lattice.source.positions (.within (.indices [4, 1, 1, 3, 0])
        [⟨"turns", some (.int 2), some (.int 4)⟩, ⟨"name", some (.text "ip2"), none⟩]) true = .ok [1, 1, 3] ∧
      lattice.source.positions (.within (.indices [4, 1, 1, 3, 0])
        [⟨"turns", none, some (.int 4)⟩, ⟨"name", some (.text "ip2"), none⟩, ⟨"turns", some (.int 2), none⟩]) true =
          .ok [1, 1, 3] := by
  have ha : lattice.source.positions (.indices [4, 1, 1, 3, 0]) true = .ok [4, 1, 1, 3, 0] := rfl
  have hranges : ∀ r ∈ [⟨"turns", some (.int 2), some (.int 4)⟩, ⟨"name", some (.text "ip2"), none⟩],
      ∃ s, lattice.source.select (ValueRange.selector r) true = .ok s := by
    simp only [List.forall_mem_cons]
    exact ⟨⟨_, rfl⟩, ⟨_, rfl⟩, nofun⟩
  obtain ⟨hfilter, -, -, hhalves⟩ := positions_within lattice_reachable ha hranges
  have hrows : lattice.source.positions (.within (.indices [4, 1, 1, 3, 0])
      [⟨"turns", some (.int 2), some (.int 4)⟩, ⟨"name", some (.text "ip2"), none⟩]) true = .ok [1, 1, 3] :=
    hfilter.trans rfl
  exact ⟨ha, hrows, (hhalves _ _ _ (.refl _) (List.perm_append_singleton _ [_, _])).trans hrows⟩

end Table

end NamedRows
