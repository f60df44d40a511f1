import NamedRows.Row.Guarded

/-!
# Slices

A slice holds rows only (`slice_lt`): its first position is a row and the others stay on this side of the stop. The same
positions come from walking: taking one position after another for as long as the stop is not reached, where each next
one is a sum that is checked (`walk_up`, `walk_down`).
-/

namespace NamedRows

/-! ## Positions of a progression -/

/-- A step fits before a distance is used up if it starts within it. -/
theorem lt_stepsWithin_iff {distance width : Int} (hw : 0 < width) {k : Nat} :
    k < stepsWithin distance width ↔ k * width < distance := by
  have hle : (k : Int) + 1 ≤ (distance + width - 1) / width ↔ ((k : Int) + 1) * width ≤ distance + width - 1 :=
    Int.le_ediv_iff_mul_le hw
  rw [Int.add_mul, Int.one_mul] at hle
  unfold stepsWithin
  omega

theorem mem_progression {first step : Int} {count r : Nat} (h : r ∈ progression first step count) :
    ∃ k : Nat, k < count ∧ r = (first + k * step).toNat := by
  simp only [progression, List.mem_map, List.mem_range] at h
  obtain ⟨k, hk, rfl⟩ := h
  exact ⟨k, hk, rfl⟩

theorem sliceBound_mem {size : Nat} {least most : Int} (h : least ≤ most) (bound : Int64) :
    least ≤ sliceBound size least most bound ∧ sliceBound size least most bound ≤ most := by
  simp only [sliceBound]
  omega

/-- The value of a bound that may be left out lies where the bounds do. -/
theorem optionBound_mem (size : Nat) {least most default : Int} (bound : Option Int64) (hl : least ≤ default)
    (hm : default ≤ most) :
    least ≤ (bound.map (sliceBound size least most)).getD default ∧
      (bound.map (sliceBound size least most)).getD default ≤ most := by
  cases bound with
  | none => exact ⟨hl, hm⟩
  | some b => exact sliceBound_mem (Int.le_trans hl hm) b

/-- A slice holds rows only. -/
theorem slice_lt {size : Nat} {start stop step : Option Int64} {rows : List Nat}
    (h : slice size start stop step = .ok rows) : ∀ r ∈ rows, r < size := by
  simp only [slice] at h
  split at h
  · cases h
  · rename_i hne
    split at h
    · rename_i hpos
      cases h
      intro r hr
      obtain ⟨k, hk, rfl⟩ := mem_progression hr
      have hn : (0 : Int) ≤ size := Int.natCast_nonneg size
      have h1 := optionBound_mem size start (Int.le_refl 0) hn
      have h2 := optionBound_mem size stop hn (Int.le_refl (size : Int))
      have h3 := (lt_stepsWithin_iff hpos).mp hk
      have h4 : 0 ≤ (k : Int) * (step.getD 1).toInt := Int.mul_nonneg (by omega) (by omega)
      omega
    · rename_i hneg
      cases h
      intro r hr
      obtain ⟨k, hk, rfl⟩ := mem_progression hr
      have hn : (-1 : Int) ≤ size - 1 := by omega
      have h1 := optionBound_mem size start hn (Int.le_refl (size - 1 : Int))
      have h2 := optionBound_mem size stop (Int.le_refl (-1)) hn
      have h3 := (lt_stepsWithin_iff (by omega)).mp hk
      have h4 : 0 ≤ (k : Int) * -(step.getD 1).toInt := Int.mul_nonneg (by omega) (by omega)
      rw [Int.mul_neg] at h3 h4
      omega

/-! ## Walking -/

theorem progression_succ (first step : Int) (n : Nat) :
    progression first step (n + 1) = first.toNat :: progression (first + step) step n := by
  have hk : ∀ k : Nat, first + ((k + 1 : Nat) : Int) * step = first + step + k * step := fun k => by
    rw [Int.natCast_add, Int.add_mul]
    omega
  simp only [progression, List.range_succ_eq_map, List.map_cons, List.map_map, Function.comp_def, hk]
  simp

/-- No step fits where the stop is reached. -/
theorem stepsWithin_of_nonpos {distance width : Int} (hw : 0 < width) (hd : distance ≤ 0) :
    stepsWithin distance width = 0 := by
  have h : (distance + width - 1) / width < 1 := Int.ediv_lt_of_lt_mul hw (by omega)
  unfold stepsWithin
  omega

/-- A step more fits where the stop is not reached. -/
theorem stepsWithin_of_pos {distance width : Int} (hw : 0 < width) (hd : 0 < distance) :
    stepsWithin distance width = stepsWithin (distance - width) width + 1 := by
  have h : (distance + width - 1) / width = (distance - 1) / width + 1 := by
    rw [show distance + width - 1 = distance - 1 + 1 * width by omega, Int.add_mul_ediv_right _ _ (by omega)]
  have hnonneg : 0 ≤ (distance - 1) / width := Int.ediv_nonneg (by omega) (by omega)
  unfold stepsWithin
  rw [h, show distance - width + width - 1 = distance - 1 by omega]
  omega

/-- Walking forwards. A position beyond 64 bits would be beyond the stop. -/
theorem walk_up {last width : Int} (hw : 0 < width) (hl : last ≤ Int64.maxValue.toInt) (i : Int) (hi : 0 ≤ i) :
    Guarded.walk i last width = progression i width (stepsWithin (last - i) width) := by
  unfold Guarded.walk
  by_cases h : i < last
  · rw [if_pos (Or.inl ⟨hw, h⟩), stepsWithin_of_pos hw (by omega), progression_succ]
    congr 1
    rw [show last - i - width = last - (i + width) by omega]
    by_cases hr : Text.Numeral.inRange (i + width)
    · rw [if_pos hr]
      exact walk_up hw hl (i + width) (by omega)
    · rw [if_neg hr, stepsWithin_of_nonpos hw]
      · rfl
      · have hmin : Int64.minValue.toInt ≤ 0 := by decide
        have hbeyond : ¬(i + width ≤ Int64.maxValue.toInt) := fun hm => hr ⟨by omega, hm⟩
        omega
  · rw [if_neg (by omega), stepsWithin_of_nonpos hw (by omega)]
    rfl
termination_by (last - i).toNat

/-- Walking backwards. A position beyond 64 bits would be before the first row. -/
theorem walk_down {last width : Int} (hw : width < 0) (hl : -1 ≤ last) (i : Int) (hi : i ≤ Int64.maxValue.toInt) :
    Guarded.walk i last width = progression i width (stepsWithin (i - last) (-width)) := by
  have hw' : 0 < -width := by omega
  unfold Guarded.walk
  by_cases h : last < i
  · rw [if_pos (Or.inr ⟨hw, h⟩), stepsWithin_of_pos hw' (by omega), progression_succ]
    congr 1
    rw [show i - last - -width = i + width - last by omega]
    by_cases hr : Text.Numeral.inRange (i + width)
    · rw [if_pos hr]
      exact walk_down hw hl (i + width) (by omega)
    · rw [if_neg hr, stepsWithin_of_nonpos hw']
      · rfl
      · have hmin : Int64.minValue.toInt ≤ -1 := by decide
        have hbeyond : ¬(Int64.minValue.toInt ≤ i + width) := fun hm => hr ⟨hm, by omega⟩
        omega
  · rw [if_neg (by omega), stepsWithin_of_nonpos hw' (by omega)]
    rfl
termination_by (i - last).toNat

end NamedRows
