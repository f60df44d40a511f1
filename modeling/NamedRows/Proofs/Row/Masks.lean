import NamedRows.Proofs.Row.InRange

/-!
# Masks

As flags, a selection has one for every row, and those of its rows are set (`length_toMask`, `getElem?_toMask`). Read
back, they are its rows in order (`pairwise_flagged`, `mem_flagged_toMask`).

A later stage of a chain sees the rows `ps` of the stage before it, in their order and multiplicity. A mask with a flag
for every row of the whole source is read there in one of two ways (`resolveMask_narrowed`): where `ps` are as many as
the source has rows, flag by flag along `ps` (`along`); otherwise by the row each entry of `ps` is. The two readings
agree for every mask exactly where `ps` are all rows in order (`along_eq_filter_iff`). After another mask they always
agree (`select_masks`).
-/

namespace NamedRows

/-- The flag of a row; a row without a flag is not selected. -/
def flagOf (flags : List Bool) (row : Nat) : Bool := flags[row]?.getD false

/-- The entries of a list whose flag is set, the flags given along the list. -/
def along (ps : List Nat) (flags : List Bool) : List Nat :=
  (ps.zip flags).filterMap fun p => if p.2 then some p.1 else none

/-- The flags that are set are those of the rows that have one. -/
theorem flagged_eq_filter (flags : List Bool) : flagged flags = (List.range flags.length).filter (flagOf flags) := by
  have hzip : flags.zipIdx = (List.range flags.length).map fun row => (flagOf flags row, row) := by
    refine List.ext_getElem (by simp) fun i hi _ => ?_
    have hi' : i < flags.length := by simpa using hi
    simp [flagOf, hi']
  rw [flagged, hzip, List.filterMap_map]
  exact congrFun (List.filterMap_eq_filter (p := flagOf flags)) _

theorem mem_flagged {flags : List Bool} {row : Nat} : row ∈ flagged flags ↔ flags[row]? = some true := by
  rw [flagged_eq_filter, List.mem_filter, List.mem_range, flagOf]
  cases hrow : flags[row]? with
  | none => simp
  | some b => simp [(List.getElem?_eq_some_iff.mp hrow).1]

/-- Flags are read in order. -/
theorem pairwise_flagged (flags : List Bool) : (flagged flags).Pairwise (· < ·) := by
  rw [flagged_eq_filter]
  exact List.pairwise_lt_range.filter _

/-- There are as many rows as flags that are set. -/
theorem length_flagged (flags : List Bool) : (flagged flags).length = flags.count true := by
  have hset : ∀ p : Bool × Nat, (if p.1 then some p.2 else none).isSome = p.1 := fun ⟨b, _⟩ => by cases b <;> rfl
  calc (flagged flags).length
      = flags.zipIdx.countP Prod.fst := by
        rw [flagged, List.length_filterMap_eq_countP]
        exact List.countP_congr fun p _ => by rw [hset]
    _ = (flags.zipIdx.map Prod.fst).countP id := by rw [List.countP_map, Function.id_comp]
    _ = flags.count true := by
        rw [List.zipIdx_map_fst]
        exact List.countP_congr fun b _ => by simp

/-! ## Selections as flags -/

namespace Selection

variable {s : Selection} {n : Nat}

/-- The number of selected rows counts repetitions. -/
theorem count_eq_length (s : Selection) : s.count = s.positions.length := by
  cases s with
  | single row => rfl
  | rows ps => rfl
  | mask flags => exact (length_flagged flags).symm

theorem InRange.length_toMask (h : s.InRange n) : (s.toMask n).length = n := by
  cases s with
  | mask flags => exact h.length_eq flags rfl
  | single row | rows ps => simp [toMask]

/-- The flags that are set are those of the selected rows. No row is beyond the last flag, so none is lost. -/
theorem InRange.getElem?_toMask (h : s.InRange n) (row : Nat) :
    (s.toMask n)[row]? = some true ↔ row ∈ s.positions := by
  have hlisted : ((List.range n).map fun r => s.positions.contains r)[row]? = some true ↔ row ∈ s.positions := by
    by_cases hrow : row < n
    · simp [hrow]
    · simpa [hrow] using fun hm => hrow (h.lt row hm)
  cases s with
  | mask flags => exact mem_flagged.symm
  | single row | rows ps => exact hlisted

end Selection

/-! ## Masks in later stages -/

/-- The places of the set flags, moved to the entries of a window at these places. -/
theorem map_absolute_flagged {ps : List Nat} {flags : List Bool} (h : flags.length = ps.length) :
    (flagged flags).map (Window.absolute ⟨some ps⟩) = along ps flags := by
  have hps : ps.zip flags =
      (List.range flags.length).map fun i => (Window.absolute ⟨some ps⟩ i, flagOf flags i) := by
    refine List.ext_getElem (by simp [h]) fun i hi _ => ?_
    have hi' : i < ps.length := by rw [List.length_zip] at hi; omega
    have hf : i < flags.length := h ▸ hi'
    simp [Window.absolute, flagOf, hi', hf]
  rw [along, hps, List.filterMap_map, flagged_eq_filter, ← List.filterMap_eq_filter, List.map_filterMap]
  congr 1
  funext i
  simp only [Function.comp_apply, Option.guard]
  split <;> rfl

/-- What a mask with a flag for every row of the source means where the rows `ps` are seen. -/
theorem resolveMask_narrowed {src : Source} {ps : List Nat} {flags : List Bool} (h : flags.length = src.rowCount) :
    resolveMask src ⟨some ps⟩ flags =
      .ok (.rows (if ps.length = src.rowCount then along ps flags else ps.filter (flagOf flags))) := by
  have hsize : Window.size ⟨some ps⟩ src = ps.length := rfl
  unfold resolveMask
  rw [hsize, h]
  by_cases hps : ps.length = src.rowCount
  · rw [if_pos hps.symm, if_pos hps, map_absolute_flagged (h.trans hps.symm)]
  · rw [if_neg (Ne.symm hps), if_pos rfl, if_neg hps]
    rfl

/-- A stage with such a mask, after a stage that came to the rows `ps`. -/
theorem select_chain_mask [Externals] {src : Source} {strict : Bool} {a : Selector} {s : Selection}
    (ha : src.select a strict = .ok s) {flags : List Bool} (h : flags.length = src.rowCount) :
    src.select (.chain [a, .mask flags]) strict =
      .ok (.rows (if s.positions.length = src.rowCount then along s.positions flags
        else s.positions.filter (flagOf flags))) := by
  have hchain : src.select (.chain [a, .mask flags]) strict =
      (src.select a strict >>= fun s => resolveMask src ⟨some s.positions⟩ flags) := rfl
  rw [hchain, ha]
  exact resolveMask_narrowed h

/-- The two readings agree on all masks exactly where the rows that are seen are all rows in order. -/
theorem along_eq_filter_iff (ps : List Nat) :
    (∀ flags, flags.length = ps.length → along ps flags = ps.filter (flagOf flags)) ↔ ps = List.range ps.length := by
  constructor
  · intro h
    refine List.ext_getElem (by simp) fun i hi _ => ?_
    rw [List.getElem_range]
    -- the mask with the one flag `i` picks the entry at the place `i`, and every entry that is `i`
    let flags := (List.range ps.length).map fun row => decide (row = i)
    have hf : flags.length = ps.length := by simp [flags]
    have hmem : ps[i] ∈ along ps flags := by
      refine List.mem_filterMap.mpr ⟨(ps[i], true), ?_, rfl⟩
      refine List.mem_iff_getElem.mpr ⟨i, by rw [List.length_zip, hf]; omega, ?_⟩
      simp [flags]
    rw [h flags hf] at hmem
    have hflag := (List.mem_filter.mp hmem).2
    by_cases hlt : ps[i] < ps.length
    · simpa [flagOf, flags, hlt] using hflag
    · simp [flagOf, flags, hlt] at hflag
  · intro h flags hf
    have hall : (flagged flags).map (Window.absolute ⟨some ps⟩) = flagged flags := by
      refine (List.map_congr_left fun r hr => ?_).trans (List.map_id _)
      have hr' : r < ps.length := hf ▸ lt_of_mem_flagged hr
      rw [h]
      simp [Window.absolute, hr']
    rw [← map_absolute_flagged hf, hall, flagged_eq_filter, hf, ← h]

/-- A mask with a flag for every row, in the stage after another such mask, picks the rows with both flags. -/
theorem select_masks [Externals] {src : Source} {xs ys : List Bool} (hx : xs.length = src.rowCount)
    (hy : ys.length = src.rowCount) (strict : Bool) :
    src.select (.chain [.mask xs, .mask ys]) strict = .ok (.rows ((flagged xs).filter (flagOf ys))) := by
  have hfirst : src.select (.mask xs) strict = .ok (.mask xs) := if_pos hx
  have hpositions : (Selection.mask xs).positions = flagged xs := rfl
  rw [select_chain_mask hfirst hy, hpositions]
  split
  · -- no row is left out by the first mask, so both ways to read the second one agree
    rename_i hall
    have hrange : flagged xs = List.range src.rowCount := by
      rw [flagged_eq_filter, hx] at hall ⊢
      exact List.filter_eq_self.mpr (List.length_filter_eq_length_iff.mp (hall.trans List.length_range.symm))
    have hagree := (along_eq_filter_iff (flagged xs)).mpr (by rw [hall, hrange])
    rw [hagree ys (hy.trans hall.symm)]
  · rfl

/-- Rows with two flags, in either order. -/
theorem filter_flagged {n : Nat} {xs ys zs : List Bool} (hx : xs.length = n) (hz : zs.length = n)
    (h : ∀ row < n, flagOf zs row = (flagOf xs row && flagOf ys row)) :
    flagged zs = (flagged xs).filter (flagOf ys) := by
  rw [flagged_eq_filter, flagged_eq_filter, hx, hz, List.filter_filter]
  refine List.filter_congr fun row hrow => ?_
  rw [h row (List.mem_range.mp hrow), Bool.and_comm]

end NamedRows
