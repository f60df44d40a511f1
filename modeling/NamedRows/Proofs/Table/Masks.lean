import NamedRows.Proofs.Row.Masks
import NamedRows.Proofs.Table.Cells
import NamedRows.Externals.Standard

/-!
# Masks of selections and conditions

The mask of a selector has a flag for every row, and those that are set are the rows that it selects (`mask_flags`).

A condition on a table is a mask with a flag for every row (`matching_eq_mask`). As a stage after others it picks, of
the rows that are left, those in which it holds, unless these are as many as the table has rows but not all of them in
order: then its flags are taken along the rows that are left (`chain_mask_readings`).
-/

namespace NamedRows.Table

variable {t : Table Column}

/-! ## Selections -/

/-- A selector has a mask unless it cannot be resolved, and then both fail with the same error. The mask has a flag for
every row, those that are set are the rows that the selector selects, and selecting the mask gives these rows once more,
ascending and each of them once. The number of selected rows counts repetitions. -/
theorem mask_flags [Externals] (t : Table Column) (sel : Selector) :
    (∀ e, t.mask sel = .error e ↔ t.select sel = .error e) ∧
    ∀ s, t.select sel = .ok s → s.count = s.positions.length ∧
      ∃ flags again, t.mask sel = .ok flags ∧ flags.length = t.rowCount ∧
        (∀ row, flags[row]? = some true ↔ row ∈ s.positions) ∧
        t.select (.mask flags) = .ok again ∧ again.positions.Pairwise (· < ·) ∧
        ∀ row, row ∈ again.positions ↔ row ∈ s.positions := by
  refine ⟨fun e => ?_, fun s hs => ⟨s.count_eq_length, ?_⟩⟩
  · unfold mask
    rw [bind_eq_error]
    exact or_iff_left fun ⟨_, _, h⟩ => nomatch h
  · have h : s.InRange t.rowCount := select_inRange hs
    have hmask : t.mask sel = .ok (s.toMask t.rowCount) := by
      unfold mask
      rw [hs]
      rfl
    have hagain : t.select (.mask (s.toMask t.rowCount)) = .ok (.mask (s.toMask t.rowCount)) := if_pos h.length_toMask
    exact ⟨_, _, hmask, h.length_toMask, h.getElem?_toMask, hagain, pairwise_flagged _,
      fun row => mem_flagged.trans (h.getElem?_toMask row)⟩

/-- The third row, the first one counted from the end, and the third one again: two flags are set. -/
theorem mask_flags_lattice :
    lattice.select (.indices [2, -5, 2]) = .ok (.rows [2, 0, 2]) ∧ (Selection.rows [2, 0, 2]).count = 3 ∧
      ∃ flags again, lattice.mask (.indices [2, -5, 2]) = .ok flags ∧ flags.length = 5 ∧
        lattice.select (.mask flags) = .ok again ∧ again.positions.Pairwise (· < ·) ∧ 2 ∈ again.positions := by
  have hs : lattice.select (.indices [2, -5, 2]) = .ok (.rows [2, 0, 2]) := rfl
  obtain ⟨hcount, flags, again, hmask, hlength, -, hagain, hascending, hmem⟩ :=
    (mask_flags lattice (.indices [2, -5, 2])).2 _ hs
  exact ⟨hs, hcount, flags, again, hmask, hlength, hagain, hascending, (hmem 2).mpr (by decide)⟩

/-! ## Conditions -/

/-- A condition that can be evaluated has a flag for every row. -/
theorem matching_eq_mask [Externals] (h : t.WellFormed) {expression : String} {sel : Selector}
    (hm : t.matching expression = .ok sel) : ∃ flags, sel = .mask flags ∧ flags.length = t.rowCount := by
  have hnone : ∀ p ∈ [], p < t.rowCount := nofun
  obtain ⟨value, hv, hm⟩ := bind_eq_ok.mp hm
  rcases (Expr.evaluate_sampled (fun _ _ => h.size_column) hnone expression).error_or_ok with
    ⟨e, he, -⟩ | ⟨_, _, hok, -, hsampled⟩
  · rw [hv] at he
    cases he
  · rw [hv] at hok
    cases hok
    cases hsampled with
    | cell c =>
      -- one truth value stands for all rows
      cases c with
      | bool b => cases hm; exact ⟨_, rfl, List.length_replicate⟩
      | float x | int n | text s => cases hm
    | @column c hc =>
      cases c with
      | bool cells => cases hm; exact ⟨_, rfl, hc⟩
      | float cells | int cells | text cells => cases hm

/-- A mask with a flag for every row, in the stage after one that came to the rows `s.positions`. If these are as many
as the table has rows, it picks the ones at the places of its flags; otherwise it picks those whose own flag is set, in
their order and as often as they are there. So it picks by the flags of the rows, whatever mask it is, exactly if the
rows are fewer or more than the table's, or all of them in order. The condition of an expression is such a mask. -/
theorem chain_mask_readings [Externals] (h : Reachable t) {a : Selector} {strict : Bool} {s : Selection}
    (ha : t.source.select a strict = .ok s) :
    (∀ flags, flags.length = t.rowCount →
      t.source.select (.chain [a, .mask flags]) strict =
        .ok (.rows (if s.positions.length = t.rowCount then along s.positions flags
          else s.positions.filter (flagOf flags)))) ∧
    ((∀ flags, flags.length = t.rowCount →
        t.source.select (.chain [a, .mask flags]) strict = .ok (.rows (s.positions.filter (flagOf flags)))) ↔
      (s.positions.length = t.rowCount → s.positions = List.range t.rowCount)) ∧
    ∀ expression sel, t.matching expression = .ok sel → ∃ flags, sel = .mask flags ∧ flags.length = t.rowCount := by
  have hread : ∀ flags, flags.length = t.rowCount →
      t.source.select (.chain [a, .mask flags]) strict =
        .ok (.rows (if s.positions.length = t.rowCount then along s.positions flags
          else s.positions.filter (flagOf flags))) :=
    fun flags hf => select_chain_mask ha hf
  refine ⟨hread, ?_, fun expression sel => matching_eq_mask h.wellFormed⟩
  by_cases hn : s.positions.length = t.rowCount
  · have hrange := along_eq_filter_iff s.positions
    rw [hn] at hrange
    simp only [hn, forall_const]
    refine Iff.trans ⟨fun hlaw flags hf => ?_, fun hlaw flags hf => ?_⟩ hrange
    · have hboth := (hread flags hf).symm.trans (hlaw flags hf)
      rw [if_pos hn] at hboth
      simpa using hboth
    · rw [hread flags hf, if_pos hn, hlaw flags hf]
  · refine ⟨fun _ hn' => absurd hn' hn, fun _ flags hf => ?_⟩
    rw [hread flags hf, if_neg hn]

/-- Of the last three rows, turned round, the condition that holds in the rows `1` and `3` picks the row `3`. -/
theorem chain_mask_lattice :
    lattice.select (.slice none (some 1) (some (-1))) = .ok (.rows [4, 3, 2]) ∧
      lattice.select (.chain [.slice none (some 1) (some (-1)), .mask [false, true, false, true, false]]) =
        .ok (.rows [3]) := by
  have ha : lattice.source.select (.slice none (some 1) (some (-1))) true = .ok (.rows [4, 3, 2]) := rfl
  exact ⟨ha, (chain_mask_readings lattice_reachable ha).1 [false, true, false, true, false] rfl⟩

/-- A condition that holds in the first row only picks the last row once the table is turned round. -/
theorem chain_mask_lattice_reversed :
    Reachable lattice ∧
      lattice.select (.slice none none (some (-1))) = .ok (.rows [4, 3, 2, 1, 0]) ∧
      [true, false, false, false, false].length = lattice.rowCount ∧
      lattice.select (.chain [.slice none none (some (-1)), .mask [true, false, false, false, false]]) =
        .ok (.rows [4]) ∧
      [4, 3, 2, 1, 0].filter (flagOf [true, false, false, false, false]) = [0] :=
  ⟨lattice_reachable, rfl, rfl, rfl, rfl⟩

end NamedRows.Table
