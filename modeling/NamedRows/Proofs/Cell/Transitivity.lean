import NamedRows.Proofs.Cell.Order
import NamedRows.Proofs.Cell.Rounding

/-!
# Numbers in order

Two integers are compared exactly, and all other numbers as doubles. Doubles other than NaNs are in the order of their
places (`Rounding.compare_eq_place`), and rounding integers to doubles keeps their order (`Rounding.intPlace_mono`). So
whatever way two numbers are compared, the lesser one is in no later place (`Cell.place_le_of_isLE`). The converse fails
for integers that are rounded to one double, and with it the order of numbers: between two such integers in the wrong
order that double makes a detour (`Cell.Detour`), which is the only exception (`Cell.compare?_numbers`).
-/

namespace NamedRows

namespace Rounding

open Float.Model (UnpackedFloat)

/-! ## Places of doubles -/

/-- The place of a double among the others: first its sort from the least infinity to the greatest, and for finite ones
then exponent and significand, which count the other way round below zero. -/
def place : UnpackedFloat → ℤ ×ₗ ℤ ×ₗ ℤ
  | .infinity .negative => toLex (-2, toLex (0, 0))
  | .finite .negative m e _ => toLex (-1, toLex (-e, -m))
  | .finite .positive m e _ => toLex (1, toLex (e, m))
  | .infinity .positive => toLex (2, toLex (0, 0))
  | .zero _ | .notANumber => toLex (0, toLex (0, 0))

theorem compare_neg (i j : ℤ) : compare (-i) (-j) = (compare i j).swap := by
  rcases lt_trichotomy i j with h | h | h
  · rw [compare_lt_iff_lt.mpr h, compare_gt_iff_gt.mpr (Int.neg_lt_neg h)]
    rfl
  · rw [h, compare_eq_iff_eq.mpr rfl, compare_eq_iff_eq.mpr rfl]
    rfl
  · rw [compare_gt_iff_gt.mpr h, compare_lt_iff_lt.mpr (Int.neg_lt_neg h)]
    rfl

theorem compare_natCast (m n : Nat) : compare (m : ℤ) (n : ℤ) = compare m n := by
  rcases lt_trichotomy m n with h | h | h
  · rw [compare_lt_iff_lt.mpr h, compare_lt_iff_lt.mpr (Int.ofNat_lt.mpr h)]
  · rw [h, compare_eq_iff_eq.mpr rfl, compare_eq_iff_eq.mpr rfl]
  · rw [compare_gt_iff_gt.mpr h, compare_gt_iff_gt.mpr (Int.ofNat_lt.mpr h)]

/-- Doubles compare as their places do. -/
theorem compare_eq_place {x y : UnpackedFloat} (hx : x.isNaN = false) (hy : y.isNaN = false) :
    x.compare y = some (compare (place x) (place y)) := by
  rcases x with (_ | _) | _ | (_ | _) | ⟨_ | _, m, d, hm⟩ <;>
    rcases y with (_ | _) | _ | (_ | _) | ⟨_ | _, n, e, hn⟩ <;>
    try first
    | rfl
    | exact Bool.noConfusion hx
    | exact Bool.noConfusion hy
  · change some ((compare d e).then (compare m n)).swap =
      some ((compare (-d) (-e)).then (compare (-(m : ℤ)) (-(n : ℤ))))
    rw [compare_neg, compare_neg, compare_natCast, Ordering.swap_then]
  · change some ((compare d e).then (compare m n)) = some ((compare d e).then (compare (m : ℤ) (n : ℤ)))
    rw [compare_natCast]

theorem isLE_compare_place {p q : ℤ ×ₗ ℤ ×ₗ ℤ} : (compare p q).isLE = true ↔ p ≤ q :=
  Ordering.isLE_iff_ne_gt.trans compare_le_iff_le

/-! ## Places of integers -/

/-- The place of the double that an integer is rounded to. -/
def intPlace (i : ℤ) : ℤ ×ₗ ℤ ×ₗ ℤ :=
  toLex (i.sign, toLex (i.sign * exponent i.natAbs, i.sign * significand i.natAbs))

theorem intPlace_of_pos {i : ℤ} (h : 0 < i) :
    intPlace i = toLex (1, toLex (exponent i.natAbs, (significand i.natAbs : ℤ))) := by
  rw [intPlace, Int.sign_eq_one_of_pos h, Int.one_mul, Int.one_mul]

theorem intPlace_of_neg {i : ℤ} (h : i < 0) :
    intPlace i = toLex (-1, toLex (-exponent i.natAbs, -(significand i.natAbs : ℤ))) := by
  rw [intPlace, Int.sign_eq_neg_one_of_neg h, Int.neg_one_mul, Int.neg_one_mul]

theorem intPlace_zero : intPlace 0 = toLex (0, toLex (0, 0)) := by
  rw [intPlace, Int.sign_zero, Int.zero_mul, Int.zero_mul]

/-- The double of an integer is where the integer is rounded to. -/
theorem place_ofInt {i : ℤ} (h : i.natAbs < 2 ^ 64) :
    (Float.ofInt i).toModel.unpack.isNaN = false ∧ place (Float.ofInt i).toModel.unpack = intPlace i := by
  match i with
  | .ofNat 0 => exact ⟨rfl, rfl⟩
  | .ofNat (n + 1) =>
    obtain ⟨hp, hx⟩ := holds_ofNat (Nat.succ_ne_zero n) h
    have hint : Float.ofInt (.ofNat (n + 1)) = Float.ofNat (n + 1) := rfl
    rw [hint, hx, intPlace_of_pos (show 0 < Int.ofNat (n + 1) from Int.ofNat_lt.mpr (Nat.succ_pos n))]
    exact ⟨rfl, rfl⟩
  | .negSucc n =>
    obtain ⟨hp, hx⟩ := holds_neg (Nat.succ_ne_zero n) h (holds_ofNat (Nat.succ_ne_zero n) h)
    have hint : Float.ofInt (.negSucc n) = (Float.ofNat (n + 1)).neg := rfl
    rw [hint, hx, intPlace_of_neg (Int.negSucc_lt_zero n)]
    exact ⟨rfl, rfl⟩

/-- Rounding keeps the order of integers, and below zero that of their sizes is the other way round. -/
theorem intPlace_mono {i j : ℤ} (h : i ≤ j) : intPlace i ≤ intPlace j := by
  rcases lt_trichotomy i 0 with hi | rfl | hi
  · rcases lt_trichotomy j 0 with hj | rfl | hj
    · have hle := exponent_lt_or_of_le (show j.natAbs ≠ 0 by omega) (show j.natAbs ≤ i.natAbs by omega)
      rw [intPlace_of_neg hi, intPlace_of_neg hj, Prod.Lex.toLex_le_toLex, Prod.Lex.toLex_le_toLex]
      omega
    · rw [intPlace_of_neg hi, intPlace_zero]
      exact Prod.Lex.toLex_le_toLex.mpr (.inl (show (-1 : ℤ) < 0 by decide))
    · rw [intPlace_of_neg hi, intPlace_of_pos hj]
      exact Prod.Lex.toLex_le_toLex.mpr (.inl (show (-1 : ℤ) < 1 by decide))
  · rcases Int.lt_or_eq_of_le h with hj | rfl
    · rw [intPlace_zero, intPlace_of_pos hj]
      exact Prod.Lex.toLex_le_toLex.mpr (.inl (show (0 : ℤ) < 1 by decide))
    · exact le_refl _
  · have hj := Int.lt_of_lt_of_le hi h
    have hle := exponent_lt_or_of_le (show i.natAbs ≠ 0 by omega) (show i.natAbs ≤ j.natAbs by omega)
    rw [intPlace_of_pos hi, intPlace_of_pos hj, Prod.Lex.toLex_le_toLex, Prod.Lex.toLex_le_toLex]
    omega

/-- Up to `2 ^ 53` integers are not rounded into each other. -/
theorem eq_of_intPlace_eq {i j : ℤ} (hi : i.natAbs ≤ 2 ^ 53) (hj : j.natAbs ≤ 2 ^ 53) (h : intPlace i = intPlace j) :
    i = j := by
  obtain ⟨hsign, hrest⟩ := Prod.mk.inj (toLex.injective h)
  obtain ⟨hexponent, hsignificand⟩ := Prod.mk.inj (toLex.injective hrest)
  rcases eq_or_ne i 0 with rfl | hne
  · exact (Int.sign_eq_zero_iff_zero.mp (hsign.symm.trans Int.sign_zero)).symm
  · have hunit : i.sign ≠ 0 := fun h => hne (Int.sign_eq_zero_iff_zero.mp h)
    have hj0 : j.natAbs ≠ 0 := fun h => hunit (by rw [hsign, Int.natAbs_eq_zero.mp h, Int.sign_zero])
    rw [← hsign] at hexponent hsignificand
    have hsize : i.natAbs = j.natAbs := eq_of_rounded_eq (Int.natAbs_ne_zero.mpr hne) hj0 hi hj
      (Int.eq_of_mul_eq_mul_left hunit hexponent)
      (Int.ofNat_inj.mp (Int.eq_of_mul_eq_mul_left hunit hsignificand))
    rw [← Int.sign_mul_natAbs i, ← Int.sign_mul_natAbs j, hsign, hsize]

/-- Below `2 ^ 53` no other integer is rounded to where one stands. -/
theorem eq_of_intPlace_eq_of_lt {i j : ℤ} (hi : i.natAbs < 2 ^ 53) (h : intPlace i = intPlace j) : i = j := by
  rcases lt_trichotomy i j with hlt | heq | hlt
  · have hnext : intPlace i = intPlace (i + 1) :=
      le_antisymm (intPlace_mono (by omega)) ((intPlace_mono (show i + 1 ≤ j by omega)).trans_eq h.symm)
    have := eq_of_intPlace_eq (by omega) (by omega) hnext
    omega
  · exact heq
  · have hprevious : intPlace (i - 1) = intPlace i :=
      le_antisymm (intPlace_mono (by omega)) (h.trans_le (intPlace_mono (show j ≤ i - 1 by omega)))
    have := eq_of_intPlace_eq (by omega) (by omega) hprevious
    omega

end Rounding

/-! ## Numbers -/

namespace Cell

open Rounding

variable {a b c : Cell} {o : Ordering}

/-- Cells that stand for numbers, NaNs apart. -/
def IsNumber : Cell → Prop
  | .float x => x.isNaN = false
  | .int _ | .bool _ => True
  | .text _ => False

instance : DecidablePred IsNumber
  | .float x => inferInstanceAs (Decidable (x.isNaN = false))
  | .int _ | .bool _ => inferInstanceAs (Decidable True)
  | .text _ => inferInstanceAs (Decidable False)

/-- The place of the double that a cell stands for. -/
def place : Cell → ℤ ×ₗ ℤ ×ₗ ℤ
  | .float x => Rounding.place x.toModel.unpack
  | .int n => intPlace n.toInt
  | .bool b => intPlace b.toNat
  | .text _ => toLex (0, toLex (0, 0))

theorem place_floatOfInt (n : Int64) :
    (floatOfInt n).toModel.unpack.isNaN = false ∧ Rounding.place (floatOfInt n).toModel.unpack = intPlace n.toInt := by
  have hlow := n.le_toInt
  have hhigh := n.toInt_lt
  exact place_ofInt (by omega)

theorem place_floatOfBool (b : Bool) :
    (floatOfBool b).toModel.unpack.isNaN = false ∧
      Rounding.place (floatOfBool b).toModel.unpack = intPlace b.toNat := by
  cases b <;> exact ⟨rfl, rfl⟩

theorem toFloat?_place (h : a.IsNumber) :
    ∃ x, a.toFloat? = some x ∧ x.toModel.unpack.isNaN = false ∧ Rounding.place x.toModel.unpack = a.place := by
  cases a with
  | float x => exact ⟨x, rfl, h, rfl⟩
  | int n => exact ⟨_, rfl, place_floatOfInt n⟩
  | bool b => exact ⟨_, rfl, place_floatOfBool b⟩
  | text s => exact absurd h id

/-- Two numbers that are not both integers compare as their places do. -/
theorem compare?_eq_place (ha : a.IsNumber) (hb : b.IsNumber) (h : ¬ ∃ m n, a = .int m ∧ b = .int n) :
    a.compare? b = some (compare a.place b.place) := by
  obtain ⟨x, hx, hxn, hxp⟩ := toFloat?_place ha
  obtain ⟨y, hy, hyn, hyp⟩ := toFloat?_place hb
  have hdoubles : a.compare? b = (do compareFloat? (← a.toFloat?) (← b.toFloat?)) := by
    cases a <;> cases b <;>
      first
      | rfl
      | exact absurd ha id
      | exact absurd hb id
      | exact absurd ⟨_, _, rfl, rfl⟩ h
  rw [hdoubles, hx, hy, ← hxp, ← hyp]
  exact (compareFloat?_eq x y).trans (compare_eq_place hxn hyn)

theorem compare?_int (m n : Int64) : (Cell.int m).compare? (.int n) = some (compare m n) := rfl

/-- Two numbers compare. -/
theorem exists_compare? (ha : a.IsNumber) (hb : b.IsNumber) : ∃ o, a.compare? b = some o := by
  by_cases h : ∃ m n, a = .int m ∧ b = .int n
  · obtain ⟨m, n, rfl, rfl⟩ := h
    exact ⟨_, compare?_int m n⟩
  · exact ⟨_, compare?_eq_place ha hb h⟩

/-- A number that is at most another one is in no later place, since rounding keeps the order. -/
theorem place_le_of_isLE (ha : a.IsNumber) (hb : b.IsNumber) (ho : a.compare? b = some o) (hle : o.isLE = true) :
    a.place ≤ b.place := by
  by_cases h : ∃ m n, a = .int m ∧ b = .int n
  · obtain ⟨m, n, rfl, rfl⟩ := h
    rw [compare?_int, Option.some.injEq] at ho
    rw [← ho, Std.isLE_compare] at hle
    exact intPlace_mono (Int64.le_iff_toInt_le.mp hle)
  · rw [compare?_eq_place ha hb h, Option.some.injEq] at ho
    rwa [← ho, isLE_compare_place] at hle

/-- Numbers that are not both integers are in the order of their places. -/
theorem isLE_of_place_le (ha : a.IsNumber) (hb : b.IsNumber) (h : ¬ ∃ m n, a = .int m ∧ b = .int n)
    (ho : a.compare? b = some o) (hle : a.place ≤ b.place) : o.isLE = true := by
  rw [compare?_eq_place ha hb h, Option.some.injEq] at ho
  rwa [← ho, isLE_compare_place]

/-- A double between two integers that are in the wrong order, and are both rounded to it. -/
def Detour : Cell → Cell → Cell → Prop
  | .int m, .float x, .int n => n < m ∧ (floatOfInt m == x) = true ∧ (x == floatOfInt n) = true
  | _, _, _ => False

instance (m : Int64) (x : Float) (n : Int64) : Decidable (Detour (.int m) (.float x) (.int n)) :=
  inferInstanceAs (Decidable (n < m ∧ (floatOfInt m == x) = true ∧ (x == floatOfInt n) = true))

/-- Integers in the wrong order are at most a number that is at most them only if all three are one double. -/
theorem detour_of_lt {m n : Int64} (hb : b.IsNumber) (hlt : n < m) (hmb : (Cell.int m).place ≤ b.place)
    (hbn : b.place ≤ (Cell.int n).place) (hint : ¬ ∃ k, b = .int k) : Detour (.int m) b (.int n) := by
  have hnm : intPlace n.toInt ≤ intPlace m.toInt := intPlace_mono (Int.le_of_lt (Int64.lt_iff_toInt_lt.mp hlt))
  have hm : intPlace m.toInt = b.place := le_antisymm hmb (hbn.trans hnm)
  have hn : b.place = intPlace n.toInt := le_antisymm hbn (hnm.trans hmb)
  cases b with
  | text s => exact absurd hb id
  | int k => exact absurd ⟨k, rfl⟩ hint
  | bool t =>
    have hsmall : (t.toNat : ℤ).natAbs < 2 ^ 53 := by cases t <;> decide
    have hmt := eq_of_intPlace_eq_of_lt hsmall hm.symm
    have hnt := eq_of_intPlace_eq_of_lt hsmall hn
    exact absurd (Int64.lt_iff_toInt_lt.mp hlt) (by omega)
  | float x =>
    obtain ⟨hmn, hmp⟩ := place_floatOfInt m
    obtain ⟨hnn, hnp⟩ := place_floatOfInt n
    refine ⟨hlt, float_beq_iff.mpr ?_, float_beq_iff.mpr ?_⟩
    · exact (compare_eq_place hmn hb).trans (congrArg some (compare_eq_iff_eq.mpr (hmp.trans hm)))
    · exact (compare_eq_place hb hnn).trans (congrArg some (compare_eq_iff_eq.mpr (hn.trans hnp.symm)))

/-- An integer that is equal to a double is in its place. -/
theorem place_of_beq {m : Int64} {x : Float} (h : (floatOfInt m == x) = true) :
    (Cell.float x).place = intPlace m.toInt := by
  have hcompare := float_beq_iff.mp h
  have hx : x.isNaN = false := by
    cases hx : x.isNaN with
    | false => rfl
    | true => exact absurd (float_le_iff.mpr (by rw [hcompare]; rfl)) (not_float_le_of_isNaN hx (floatOfInt m)).2
  obtain ⟨hmn, hmp⟩ := place_floatOfInt m
  have heq := (compare_eq_place hmn hx).symm.trans hcompare
  rw [Option.some.injEq, compare_eq_iff_eq, hmp] at heq
  exact heq.symm

/-- On a detour the double is equal to both integers, which are at least `2 ^ 53` in size. -/
theorem Detour.spec (h : Detour a b c) :
    a.compare? b = some .eq ∧ b.compare? c = some .eq ∧ a.compare? c = some .gt ∧
      ∃ m n : Int64, a = .int m ∧ c = .int n ∧ 2 ^ 53 ≤ m.toInt.natAbs ∧ 2 ^ 53 ≤ n.toInt.natAbs := by
  match a, b, c, h with
  | .int m, .float x, .int n, ⟨hlt, hm, hn⟩ =>
    have hm' : (Cell.int m).compare? (.float x) = some .eq := (compareFloat?_eq _ _).trans (float_beq_iff.mp hm)
    have hn' : (Cell.float x).compare? (.int n) = some .eq := (compareFloat?_eq _ _).trans (float_beq_iff.mp hn)
    have hswap : (floatOfInt n == x) = true := by
      rw [float_beq_iff, toModel_compare_swap, float_beq_iff.mp hn]
      rfl
    have heq : intPlace m.toInt = intPlace n.toInt := (place_of_beq hm).symm.trans (place_of_beq hswap)
    have hlt' : n.toInt < m.toInt := Int64.lt_iff_toInt_lt.mp hlt
    refine ⟨hm', hn', congrArg some (Std.compare_eq_gt.mpr hlt), m, n, rfl, rfl, ?_, ?_⟩
    · exact Nat.not_lt.mp fun hsmall => hlt'.ne' (eq_of_intPlace_eq_of_lt hsmall heq)
    · exact Nat.not_lt.mp fun hsmall => hlt'.ne (eq_of_intPlace_eq_of_lt hsmall heq.symm)

/-- Without a detour the order of numbers goes through. -/
theorem isLE_of_not_detour {ab bc ac : Ordering} (ha : a.IsNumber) (hb : b.IsNumber) (hc : c.IsNumber)
    (hab : a.compare? b = some ab) (hbc : b.compare? c = some bc) (hac : a.compare? c = some ac)
    (hno : ¬ Detour a b c) (hle : ab.isLE = true) (hle' : bc.isLE = true) : ac.isLE = true := by
  have hfirst := place_le_of_isLE ha hb hab hle
  have hsecond := place_le_of_isLE hb hc hbc hle'
  by_cases hints : ∃ m n, a = .int m ∧ c = .int n
  · obtain ⟨m, n, rfl, rfl⟩ := hints
    rw [compare?_int, Option.some.injEq] at hac
    rw [← hac, Std.isLE_compare]
    by_cases hint : ∃ k, b = .int k
    · -- three integers are compared exactly
      obtain ⟨k, rfl⟩ := hint
      rw [compare?_int, Option.some.injEq] at hab hbc
      rw [← hab, Std.isLE_compare] at hle
      rw [← hbc, Std.isLE_compare] at hle'
      exact Int64.le_trans hle hle'
    · exact Int64.not_lt.mp fun hlt => hno (detour_of_lt hb hlt hfirst hsecond hint)
  · exact isLE_of_place_le ha hc hints hac (hfirst.trans hsecond)

/-- Two numbers compare, and in the other direction the other way round. Of three numbers the first one is at most the
third one if it is at most the second one and that is at most the third one, but for one exception: the first and the
third are integers in the wrong order, at least `2 ^ 53` in size, and the second is the double both are rounded to. -/
theorem compare?_numbers (ha : a.IsNumber) (hb : b.IsNumber) (hc : c.IsNumber) :
    ∃ ab bc ac : Ordering,
      a.compare? b = some ab ∧ b.compare? a = some ab.swap ∧ b.compare? c = some bc ∧ a.compare? c = some ac ∧
      ((ab.isLE = true → bc.isLE = true → ac.isLE = true) ↔ ¬ Detour a b c) ∧
      (Detour a b c → ab = .eq ∧ bc = .eq ∧ ac = .gt ∧
        ∃ m n : Int64, a = .int m ∧ c = .int n ∧ 2 ^ 53 ≤ m.toInt.natAbs ∧ 2 ^ 53 ≤ n.toInt.natAbs) := by
  obtain ⟨ab, hab⟩ := exists_compare? ha hb
  obtain ⟨bc, hbc⟩ := exists_compare? hb hc
  obtain ⟨ac, hac⟩ := exists_compare? ha hc
  have hspec : Detour a b c → ab = .eq ∧ bc = .eq ∧ ac = .gt ∧
      ∃ m n : Int64, a = .int m ∧ c = .int n ∧ 2 ^ 53 ≤ m.toInt.natAbs ∧ 2 ^ 53 ≤ n.toInt.natAbs := fun h => by
    simpa only [hab, hbc, hac, Option.some.injEq] using h.spec
  refine ⟨ab, bc, ac, hab, by rw [compare?_swap a b, hab]; rfl, hbc, hac, ⟨fun htrans hdetour => ?_, ?_⟩, hspec⟩
  · obtain ⟨rfl, rfl, rfl, -⟩ := hspec hdetour
    exact absurd (htrans rfl rfl) (by decide)
  · exact fun hno hle hle' => isLE_of_not_detour ha hb hc hab hbc hac hno hle hle'

/-- The double `2 ^ 53` lies between a truth value and the same number as an integer, and these two are in order as well.
Between the next integer and that one it makes a detour. -/
theorem compare?_numbers_two_pow :
    let x := Cell.float (Float.ofBits 0x4340000000000000)
    x.IsNumber ∧
      (∃ o, (Cell.bool true).compare? (.int 9007199254740992) = some o ∧ o.isLE = true) ∧
      Detour (.int 9007199254740993) x (.int 9007199254740992) ∧
      (Cell.int 9007199254740993).compare? (.int 9007199254740992) = some .gt := by
  intro x
  have hx : x.IsNumber := by decide +kernel
  have hdetour : Detour (.int 9007199254740993) x (.int 9007199254740992) := by decide +kernel
  refine ⟨hx, ?_, hdetour, ?_⟩
  · obtain ⟨ab, bc, ac, hab, -, hbc, hac, hlaw, -⟩ :=
      compare?_numbers (show (Cell.bool true).IsNumber from trivial) hx
        (show (Cell.int 9007199254740992).IsNumber from trivial)
    have hlt : (Cell.bool true).compare? x = some .lt := by decide +kernel
    have heq : x.compare? (.int 9007199254740992) = some .eq := by decide +kernel
    obtain rfl : ab = .lt := Option.some.inj (hab.symm.trans hlt)
    obtain rfl : bc = .eq := Option.some.inj (hbc.symm.trans heq)
    exact ⟨ac, hac, hlaw.mpr (fun h => h) rfl rfl⟩
  · obtain ⟨_, _, ac, -, -, -, hac, -, hspec⟩ :=
      compare?_numbers (show (Cell.int 9007199254740993).IsNumber from trivial) hx
        (show (Cell.int 9007199254740992).IsNumber from trivial)
    rw [hac, (hspec hdetour).2.2.1]

/-- The order of numbers does not go through everywhere. The integer after `2 ^ 53` is rounded to that double and compares
as equal to it, the double compares as equal to `2 ^ 53` as an integer, but the two integers are compared exactly. -/
theorem compare?_not_transitive :
    let a := Cell.int 9007199254740993
    let b := Cell.float (Float.ofBits 0x4340000000000000)
    let c := Cell.int 9007199254740992
    a.IsNumber ∧ b.IsNumber ∧ c.IsNumber ∧
      ¬ ((a.compare? b).any Ordering.isLE = true → (b.compare? c).any Ordering.isLE = true →
        (a.compare? c).any Ordering.isLE = true) := by
  decide +kernel

end Cell

end NamedRows
