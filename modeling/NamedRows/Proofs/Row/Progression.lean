import NamedRows.Proofs.Row.Guarded

/-!
# The positions of a slice

A slice starts at its first bound and moves on by its step for as long as it stands strictly before its second bound
(`slice_progression`). Bounds are counted and fitted before anything is taken (`sliceStart`, `sliceStop`): a
negative one counts from the end, and then both lie in `0..size` for a positive step and in `-1..size-1` for a negative
one. The walk itself traps nowhere, however wide the step is.
-/

namespace NamedRows

/-- A bound counted from the first row and moved to the nearest of the positions between `least` and `most`; the default
stands for one that is left out. -/
def fittedBound (size : Nat) (least most default : Int) : Option Int64 → Int
  | none => default
  | some bound =>
    let p := if bound.toInt < 0 then size + bound.toInt else bound.toInt
    if p < least then least else if most < p then most else p

/-- Where a slice starts: with the first row on the way up, with the last one on the way down, or at a bound. -/
def sliceStart (size : Nat) (width : Int) (start : Option Int64) : Int :=
  if 0 < width then fittedBound size 0 size 0 start else fittedBound size (-1) (size - 1) (size - 1) start

/-- What a slice stops before: the end of the rows in its direction, or a bound. -/
def sliceStop (size : Nat) (width : Int) (stop : Option Int64) : Int :=
  if 0 < width then fittedBound size 0 size size stop else fittedBound size (-1) (size - 1) (-1) stop

/-- Strictly before another position for steps of this width. -/
def Before (width p q : Int) : Prop := if 0 < width then p < q else q < p

instance (width p q : Int) : Decidable (Before width p q) := by
  unfold Before
  infer_instance

theorem fittedBound_eq {size : Nat} {least most default : Int} (h : least ≤ most) (bound : Option Int64) :
    fittedBound size least most default bound = (bound.map (sliceBound size least most)).getD default := by
  cases bound with
  | none => rfl
  | some b =>
    have hneg : b < 0 ↔ b.toInt < 0 := Int64.lt_iff_toInt_lt
    simp only [fittedBound, sliceBound, Option.map_some, Option.getD_some, hneg]
    omega

/-! ## Entries of a progression -/

theorem getElem?_progression (first step : Int) (count k : Nat) :
    (progression first step count)[k]? = if k < count then some (first + k * step).toNat else none := by
  by_cases hk : k < count
  · simp [progression, hk]
  · simp [progression, hk]

/-- On the way up the positions before the stop are taken, each as it is if none is negative. -/
theorem getElem?_progression_up {first width : Int} (last : Int) (hw : 0 < width) (hf : 0 ≤ first) (k : Nat) :
    ((progression first width (stepsWithin (last - first) width)).map Int.ofNat)[k]? =
      if first + k * width < last then some (first + k * width) else none := by
  have hk : k < stepsWithin (last - first) width ↔ first + k * width < last := by
    rw [lt_stepsWithin_iff hw]
    omega
  have hnonneg : 0 ≤ first + k * width := Int.add_nonneg hf (Int.mul_nonneg (Int.natCast_nonneg k) (Int.le_of_lt hw))
  simp only [List.getElem?_map, getElem?_progression, hk]
  by_cases hlast : first + k * width < last
  · simp only [if_pos hlast, Option.map_some, Int.ofNat_eq_natCast, Int.toNat_of_nonneg hnonneg]
  · simp only [if_neg hlast, Option.map_none]

/-- On the way down the positions after the stop are taken, each as it is if the stop is before the first row by one at
most. -/
theorem getElem?_progression_down {last width : Int} (first : Int) (hw : width < 0) (hl : -1 ≤ last) (k : Nat) :
    ((progression first width (stepsWithin (first - last) (-width))).map Int.ofNat)[k]? =
      if last < first + k * width then some (first + k * width) else none := by
  have hk : k < stepsWithin (first - last) (-width) ↔ last < first + k * width := by
    rw [lt_stepsWithin_iff (by omega), Int.mul_neg]
    omega
  simp only [List.getElem?_map, getElem?_progression, hk]
  by_cases hlast : last < first + k * width
  · have hnonneg : 0 ≤ first + k * width := by omega
    simp only [if_pos hlast, Option.map_some, Int.ofNat_eq_natCast, Int.toNat_of_nonneg hnonneg]
  · simp only [if_neg hlast, Option.map_none]

/-- The entries of a slice. -/
theorem slice_entries (size : Nat) (start stop : Option Int64) {step : Option Int64} {width : Int}
    (hstep : (step.getD 1).toInt = width) (hw : width ≠ 0) :
    ∃ rows, slice size start stop step = .ok rows ∧ ∀ k : Nat,
      (rows.map Int.ofNat)[k]? =
        if Before width (sliceStart size width start + k * width) (sliceStop size width stop) then
          some (sliceStart size width start + k * width)
        else none := by
  have hn : (0 : Int) ≤ size := Int.natCast_nonneg size
  have hn' : (-1 : Int) ≤ size - 1 := by omega
  simp only [slice, hstep, if_neg hw, sliceStart, sliceStop, fittedBound_eq hn, fittedBound_eq hn', Before]
  by_cases hp : 0 < width
  · have hfirst := (optionBound_mem size start (Int.le_refl 0) hn).1
    simp only [if_pos hp]
    exact ⟨_, rfl, getElem?_progression_up _ hp hfirst⟩
  · have hlast := (optionBound_mem size stop (Int.le_refl (-1)) hn').1
    simp only [if_neg hp]
    exact ⟨_, rfl, getElem?_progression_down _ (by omega) hlast⟩

/-- Entries that are exact follow one another by exactly one step. -/
theorem sub_of_entries {rows : List Nat} {first width : Int} {taken : Nat → Prop} [DecidablePred taken]
    (h : ∀ k : Nat, (rows.map Int.ofNat)[k]? = if taken k then some (first + k * width) else none) {k a b : Nat}
    (ha : rows[k]? = some a) (hb : rows[k + 1]? = some b) : (b : Int) - a = width := by
  have hentry {i row : Nat} (hrow : rows[i]? = some row) : (row : Int) = first + i * width := by
    have hi := h i
    rw [List.getElem?_map, hrow, Option.map_some] at hi
    split at hi
    · exact Option.some.inj hi
    · cases hi
  have hnext : ((k + 1 : Nat) : Int) * width = k * width + width := by
    rw [Int.natCast_add, Int.add_mul, Int.cast_ofNat_Int, Int.one_mul]
  have ha' := hentry ha
  have hb' := hentry hb
  omega

/-- Only a step of zero is refused. With any other one the walk ends and nothing in it traps. It takes the progression
from the start in steps of the given width for exactly as long as that is strictly before the stop. All of it are rows,
and each of them is one step from the row before it. -/
theorem slice_progression {size : Nat} (hsize : size ≤ maxRows) (start stop step : Option Int64) :
    (step = some 0 → Guarded.slice size start stop step = throw (.malformed "0" .zeroStep)) ∧
      (step ≠ some 0 → ∃ rows width, Guarded.slice size start stop step = pure rows ∧
        slice size start stop step = .ok rows ∧ width = (step.getD 1).toInt ∧
        (∀ k : Nat, (rows.map Int.ofNat)[k]? =
          if Before width (sliceStart size width start + k * width) (sliceStop size width stop) then
            some (sliceStart size width start + k * width)
          else none) ∧
        (∀ row ∈ rows, row < size) ∧
        ∀ k a b : Nat, rows[k]? = some a → rows[k + 1]? = some b → (b : Int) - a = width) := by
  constructor
  · rintro rfl
    rw [slice_eq hsize]
    rfl
  · intro hstep
    have hwidth : (step.getD 1).toInt ≠ 0 := by
      intro hzero
      have hone : step.getD 1 = 0 := Int64.toInt_inj.mp hzero
      cases step with
      | none => cases hone
      | some n => exact hstep (congrArg some hone)
    obtain ⟨rows, hrows, hentries⟩ := slice_entries size start stop rfl hwidth
    refine ⟨rows, _, ?_, hrows, rfl, hentries, slice_lt hrows, fun k a b ha hb => sub_of_entries hentries ha hb⟩
    rw [slice_eq hsize, hrows]
    rfl

/-- On the way down from beyond the last of five rows every second one is taken; the first row is there, since nothing
is before it to stop at. -/
theorem slice_progression_down :
    5 ≤ maxRows ∧ some (-2) ≠ some (0 : Int64) ∧
      Guarded.slice 5 (some Int64.maxValue) (some Int64.minValue) (some (-2)) = pure [4, 2, 0] := by
  have hsize : 5 ≤ maxRows := by decide
  have hstep : some (-2) ≠ some (0 : Int64) := by decide
  obtain ⟨rows, width, hguarded, hrows, -⟩ :=
    (slice_progression hsize (some Int64.maxValue) (some Int64.minValue) (some (-2))).2 hstep
  have hslice : slice 5 (some Int64.maxValue) (some Int64.minValue) (some (-2)) = .ok [4, 2, 0] := rfl
  cases hslice.symm.trans hrows
  exact ⟨hsize, hstep, hguarded⟩

end NamedRows
