import NamedRows.Row.Resolve

/-!
# The order of cells

When one cell is at most another one (`Cell.AtMost`): texts by character codes, two integers exactly, and other numbers
as doubles. `Cell.compare?` decides this order in both directions (`Cell.isLE_compare?`, `Cell.isGE_compare?`), so a cell
lies between two bounds when it is at least the one and at most the other (`isWithin_iff`). A NaN is in no order with
anything (`Cell.not_le_of_isNaN`).
-/

namespace NamedRows

/-! ## Doubles -/

section Floats

open Float.Model (UnpackedFloat)

/-- Doubles that change places compare the other way round. Only finite ones of one sign are compared by their size. -/
theorem unpacked_compare_swap (x y : UnpackedFloat) : y.compare x = (x.compare y).map Ordering.swap := by
  have hsize : ∀ (d e : Int) (m n : Nat),
      (compare e d).then (compare n m) = ((compare d e).then (compare m n)).swap := fun d e m n => by
    rw [Ordering.swap_then, ← Std.OrientedCmp.eq_swap, ← Std.OrientedCmp.eq_swap]
  rcases x with (_ | _) | _ | (_ | _) | ⟨_ | _, m, d, hm⟩ <;>
    rcases y with (_ | _) | _ | (_ | _) | ⟨_ | _, n, e, hn⟩ <;>
    first
    | rfl
    | exact congrArg some (hsize d e m n)
    | exact congrArg (fun o => some o.swap) (hsize d e m n)

theorem toModel_compare_swap (x y : Float) :
    y.toModel.compare x.toModel = (x.toModel.compare y.toModel).map Ordering.swap :=
  unpacked_compare_swap x.toModel.unpack y.toModel.unpack

theorem float_lt_iff {x y : Float} : x < y ↔ x.toModel.compare y.toModel = some .lt :=
  decide_eq_true_iff.trans beq_iff_eq

theorem float_le_iff {x y : Float} : x ≤ y ↔ (x.toModel.compare y.toModel).any Ordering.isLE = true :=
  decide_eq_true_iff

theorem float_beq_iff {x y : Float} : (x == y) = true ↔ x.toModel.compare y.toModel = some .eq :=
  beq_iff_eq (a := x.toModel.compare y.toModel)

/-- Asking one after another whether a double is less than, equal to or greater than another one is comparing them. -/
theorem compareFloat?_eq (x y : Float) : compareFloat? x y = x.toModel.compare y.toModel := by
  unfold compareFloat?
  simp only [float_lt_iff, float_beq_iff, toModel_compare_swap x y]
  cases x.toModel.compare y.toModel with
  | none => rfl
  | some o => cases o <;> rfl

theorem isLE_compareFloat? {x y : Float} : (compareFloat? x y).any Ordering.isLE = true ↔ x ≤ y := by
  rw [compareFloat?_eq, float_le_iff]

theorem compareFloat?_swap (x y : Float) : compareFloat? y x = (compareFloat? x y).map Ordering.swap := by
  rw [compareFloat?_eq, compareFloat?_eq, toModel_compare_swap]

/-- A NaN is not at most anything, and nothing is at most a NaN. -/
theorem not_float_le_of_isNaN {x : Float} (h : x.isNaN = true) (y : Float) : ¬ x ≤ y ∧ ¬ y ≤ x := by
  have hnone : ∀ u v : UnpackedFloat, u.isNaN = true → u.compare v = none := fun u v hu => by
    cases u <;> first | rfl | cases hu
  have hcompare : x.toModel.compare y.toModel = none := hnone x.toModel.unpack y.toModel.unpack h
  rw [float_le_iff, float_le_iff, toModel_compare_swap x y, hcompare]
  simp

end Floats

/-! ## Cells -/

namespace Cell

/-- One cell is at most another one: texts by character codes, two integers exactly, and all else as doubles. So a text
and a number are in no order. -/
def AtMost : Cell → Cell → Prop
  | .text a, .text b => a ≤ b
  | .int m, .int n => m ≤ n
  | a, b => ∃ x y, a.toFloat? = some x ∧ b.toFloat? = some y ∧ x ≤ y

instance : LE Cell := ⟨AtMost⟩

/-- Comparing decides whether one cell is at most another one. -/
theorem isLE_compare? {a b : Cell} : (a.compare? b).any Ordering.isLE = true ↔ a ≤ b := by
  show _ ↔ AtMost a b
  have htext : ∀ s t : String, (compare s t).isLE = true ↔ s ≤ t := fun _ _ =>
    isLE_compareOfLessAndEq String.le_antisymm String.not_le String.le_total
  cases a <;> cases b <;> simp [compare?, AtMost, toFloat?, htext, Std.isLE_compare, isLE_compareFloat?]

theorem compare?_swap (a b : Cell) : b.compare? a = (a.compare? b).map Ordering.swap := by
  cases a <;> cases b <;>
    first
    | rfl
    | exact congrArg some Std.OrientedCmp.eq_swap
    | exact compareFloat?_swap _ _

/-- Comparing decides whether one cell is at least another one. -/
theorem isGE_compare? {a b : Cell} : (a.compare? b).any Ordering.isGE = true ↔ b ≤ a := by
  rw [← isLE_compare?, compare?_swap a b, Option.any_map]
  simp

/-- A NaN is not at most anything, and nothing is at most a NaN. -/
theorem not_le_of_isNaN {x : Float} (h : x.isNaN = true) (a : Cell) : ¬ .float x ≤ a ∧ ¬ a ≤ .float x := by
  show ¬ AtMost _ _ ∧ ¬ AtMost _ _
  cases a <;> simp [AtMost, toFloat?, not_float_le_of_isNaN h]

end Cell

/-- A cell is between two bounds if it is at least the low one and at most the high one, as far as they are given. -/
theorem isWithin_iff {low high : Option Cell} {a : Cell} :
    isWithin low high a = true ↔ (∀ b ∈ low, b ≤ a) ∧ ∀ b ∈ high, a ≤ b := by
  cases low <;> cases high <;> simp [isWithin, Cell.isLE_compare?, Cell.isGE_compare?]

end NamedRows
