import Mathlib

/-!
# Integers as doubles

The double nearest to a positive integer has the significand `nearest m k`, where `k` binary digits are dropped so that
53 are left, or it is the next power of two (`rounded`). Rounding keeps the order of integers (`rounded_mono`), and it
changes none of them up to `2 ^ 53` (`rounded_exact`).
-/

namespace NamedRows.Rounding

open Float.Model Float.Model.UnpackedFloat

/-! ## Dropping digits -/

/-- A number without its last `k` binary digits, rounded to the nearest one and to an even one between two. -/
def nearest (m k : Nat) : Nat :=
  if 2 * (m % 2 ^ k) < 2 ^ k then m / 2 ^ k
  else if 2 * (m % 2 ^ k) = 2 ^ k then m / 2 ^ k + m / 2 ^ k % 2
  else m / 2 ^ k + 1

theorem div_le_nearest (m k : Nat) : m / 2 ^ k ≤ nearest m k := by
  unfold nearest
  split_ifs <;> omega

theorem nearest_le (m k : Nat) : nearest m k ≤ m / 2 ^ k + 1 := by
  unfold nearest
  split_ifs <;> omega

theorem nearest_mono {m n : Nat} (h : m ≤ n) (k : Nat) : nearest m k ≤ nearest n k := by
  have hpos : 0 < 2 ^ k := Nat.two_pow_pos k
  rcases Nat.lt_or_eq_of_le (Nat.div_le_div_right (c := 2 ^ k) h) with hlt | heq
  · exact Nat.le_trans (nearest_le m k) (Nat.le_trans hlt (div_le_nearest n k))
  · -- with the same quotient the remainders decide
    have hmod : m % 2 ^ k ≤ n % 2 ^ k := by
      have hm := Nat.div_add_mod m (2 ^ k)
      have hn := Nat.div_add_mod n (2 ^ k)
      rw [heq] at hm
      omega
    unfold nearest
    rw [heq]
    split_ifs <;> omega

/-- Digits that are zeros are dropped without loss. -/
theorem nearest_mul_two_pow (m k : Nat) : nearest (m * 2 ^ k) k = m := by
  have hpos : 0 < 2 ^ k := Nat.two_pow_pos k
  rw [nearest, Nat.mul_mod_left, if_pos (by omega), Nat.mul_div_cancel m hpos]

theorem nearest_mul_mul (m k i : Nat) : nearest (m * 2 ^ i) (k + i) = nearest m k := by
  have hpos : 0 < 2 ^ i := Nat.two_pow_pos i
  have hdiv : m * 2 ^ i / 2 ^ (k + i) = m / 2 ^ k := by
    rw [Nat.pow_add, Nat.mul_div_mul_right _ _ hpos]
  have hmod : m * 2 ^ i % 2 ^ (k + i) = m % 2 ^ k * 2 ^ i := by rw [Nat.pow_add, Nat.mul_mod_mul_right]
  unfold nearest
  rw [hdiv, hmod, ← Nat.mul_assoc, Nat.pow_add]
  simp only [Nat.mul_lt_mul_right hpos, Nat.mul_left_inj (Nat.ne_of_gt hpos)]

/-- Dropping digits one by one keeps the last one that was dropped, and whether there was a one before it. -/
theorem shiftRight_exact (m k : Nat) :
    (⟨m, false, false⟩ : ExtendedMantissa) >>> k =
      ⟨m / 2 ^ k, decide (2 ^ k ≤ 2 * (m % 2 ^ k)), decide (m % 2 ^ k ≠ 0 ∧ 2 * (m % 2 ^ k) ≠ 2 ^ k)⟩ := by
  induction k with
  | zero => simp [HShiftRight.hShiftRight, Nat.repeat, Nat.mod_one]
  | succ k ih =>
    have hstep : (⟨m, false, false⟩ : ExtendedMantissa) >>> (k + 1) =
        ((⟨m, false, false⟩ : ExtendedMantissa) >>> k).shiftRightOne := rfl
    have hdiv : m / 2 ^ k / 2 = m / 2 ^ (k + 1) := by rw [Nat.div_div_eq_div_mul, Nat.pow_succ]
    have hlt : m % 2 ^ k < 2 ^ k := Nat.mod_lt m (Nat.two_pow_pos k)
    rw [hstep, ih, ExtendedMantissa.shiftRightOne, hdiv, Nat.mod_pow_succ, Nat.pow_succ]
    -- the next digit is the one that is dropped now
    rcases Nat.mod_two_eq_zero_or_one (m / 2 ^ k) with hbit | hbit
    · rw [hbit, Nat.mul_zero, Nat.add_zero]
      refine congrArg₂ (ExtendedMantissa.mk _) ?_ ?_
      · refine (decide_eq_false ?_).symm
        omega
      · rw [← Bool.decide_or, decide_eq_decide]
        omega
    · rw [hbit, Nat.mul_one]
      refine congrArg₂ (ExtendedMantissa.mk _) ?_ ?_
      · refine (decide_eq_true ?_).symm
        omega
      · rw [← Bool.decide_or, decide_eq_decide]
        omega

theorem roundedMantissa_eq (q : Nat) (half more : Bool) :
    (⟨q, half, more⟩ : ExtendedMantissa).roundedMantissa =
      if half then if more then q + 1 else q + q % 2 else q := by
  cases half <;> cases more <;> rfl

/-- Rounding what is left when digits are dropped. -/
theorem roundedMantissa_shiftRight (m k : Nat) :
    ((⟨m, false, false⟩ : ExtendedMantissa) >>> k).roundedMantissa = nearest m k := by
  have hlt : m % 2 ^ k < 2 ^ k := Nat.mod_lt m (Nat.two_pow_pos k)
  rw [shiftRight_exact, roundedMantissa_eq, nearest]
  simp only [decide_eq_true_eq]
  split_ifs <;> omega

/-! ## Significands -/

/-- How many digits are dropped so that a number keeps 53 of them, and what it is rounded to. What is rounded up to
`2 ^ 53` loses one more. -/
def rounded (m : Nat) : Nat × Nat :=
  let k := m.log2 - 52
  if nearest m k < 2 ^ 53 then (k, nearest m k) else (k + 1, 2 ^ 52)

/-- As many digits are dropped as there are beyond the first 53. -/
theorem shiftToTargetExponent_eq (m : Nat) {e : Int} (he : -1074 ≤ e) :
    shiftToTargetExponent Format.binary64 m e .exact =
      ((⟨m, false, false⟩ : ExtendedMantissa) >>> (m.log2 - 52), e + (m.log2 - 52 : Nat)) := by
  have hshift : (Format.binary64.targetExponent (totalExponent m e) - e).toNat = m.log2 - 52 := by
    have htarget : Format.binary64.targetExponent (totalExponent m e) = max (m.log2 + 1 + e - 53) (-1074) := rfl
    rw [htarget]
    omega
  rw [shiftToTargetExponent, shiftToExponent, hshift]
  rfl

theorem nearest_bounds {m : Nat} (hm : 52 ≤ m.log2) :
    2 ^ 52 ≤ nearest m (m.log2 - 52) ∧ nearest m (m.log2 - 52) ≤ 2 ^ 53 := by
  have hne : m ≠ 0 := by
    rintro rfl
    exact absurd hm (by decide)
  have hlow : 2 ^ 52 * 2 ^ (m.log2 - 52) ≤ m := by
    rw [← Nat.pow_add, Nat.add_sub_cancel' hm]
    exact Nat.log2_self_le hne
  have hhigh : m < 2 ^ 53 * 2 ^ (m.log2 - 52) := by
    rw [← Nat.pow_add, show 53 + (m.log2 - 52) = m.log2 + 1 by omega]
    exact Nat.lt_log2_self
  have hpos : 0 < 2 ^ (m.log2 - 52) := Nat.two_pow_pos _
  constructor
  · exact Nat.le_trans ((Nat.le_div_iff_mul_le hpos).mpr hlow) (div_le_nearest _ _)
  · exact Nat.le_trans (nearest_le _ _) ((Nat.div_lt_iff_lt_mul hpos).mpr hhigh)

theorem rounded_bounds {m : Nat} (hm : 52 ≤ m.log2) : 2 ^ 52 ≤ (rounded m).2 ∧ (rounded m).2 < 2 ^ 53 := by
  rw [rounded]
  split
  · rename_i h
    exact ⟨(nearest_bounds hm).1, h⟩
  · exact ⟨Nat.le_refl _, Nat.pow_lt_pow_right (by decide) (by decide)⟩

theorem log2_of_bounds {m : Nat} (h : 2 ^ 52 ≤ m ∧ m < 2 ^ 53) : m.log2 = 52 := (Nat.log2_eq_iff (by omega)).mpr h

/-- Rounding a number of at least 53 digits. What is rounded up to `2 ^ 53` is shifted once more. -/
theorem roundWithAccuracy_eq (sign : Sign) {m : Nat} {e : Int} (hm : 52 ≤ m.log2) (he : -1074 ≤ e) :
    ∃ h, roundWithAccuracy Format.binary64 sign m e .exact = .finite sign (rounded m).2 (e + (rounded m).1) h := by
  obtain ⟨hlow, hhigh⟩ := nearest_bounds hm
  rw [roundWithAccuracy, shiftToTargetExponent_eq m he, rounded]
  dsimp only
  rw [roundedMantissa_shiftRight, shiftToTargetExponent_eq _ (by omega)]
  dsimp only
  generalize nearest m (m.log2 - 52) = r at hlow hhigh ⊢
  have hfinal (r' k : Nat) (hk : r.log2 - 52 = k)
      (hr : ((⟨r, false, false⟩ : ExtendedMantissa) >>> (r.log2 - 52)).mantissa = r') (hpos : 0 < r') :
      ∃ h, (if h : ((⟨r, false, false⟩ : ExtendedMantissa) >>> (r.log2 - 52)).mantissa = 0 then .zero sign
        else .finite sign ((⟨r, false, false⟩ : ExtendedMantissa) >>> (r.log2 - 52)).mantissa
          (e + (m.log2 - 52 : Nat) + (r.log2 - 52 : Nat)) (Nat.pos_of_ne_zero h)) =
        UnpackedFloat.finite sign r' (e + (m.log2 - 52 + k : Nat)) h := by
    subst hk hr
    refine ⟨hpos, ?_⟩
    rw [dif_neg (Nat.ne_of_gt hpos)]
    congr 1
    omega
  rcases Nat.lt_or_eq_of_le hhigh with hlt | rfl
  · have hlog : r.log2 - 52 = 0 := by rw [log2_of_bounds ⟨hlow, hlt⟩]
    rw [if_pos hlt]
    exact hfinal r 0 hlog (by rw [hlog]; rfl) (Nat.lt_of_lt_of_le (Nat.two_pow_pos 52) hlow)
  · have hlog : (2 ^ 53).log2 - 52 = 1 := by rw [Nat.log2_two_pow]
    rw [if_neg (Nat.lt_irrefl _)]
    exact hfinal (2 ^ 52) 1 hlog (by rw [hlog]; rfl) (Nat.two_pow_pos 52)

/-! ## Order -/

/-- Rounding keeps the order, by digits that are dropped first. -/
theorem rounded_mono {m n : Nat} (hm : 52 ≤ m.log2) (h : m ≤ n) : toLex (rounded m) ≤ toLex (rounded n) := by
  have hlog : m.log2 ≤ n.log2 := by
    rcases Nat.eq_zero_or_pos m with rfl | hpos
    · exact absurd hm (by decide)
    · exact (Nat.le_log2 (by omega)).mpr (Nat.le_trans (Nat.log2_self_le (by omega)) h)
  have hn : 52 ≤ n.log2 := Nat.le_trans hm hlog
  rw [Prod.Lex.toLex_le_toLex]
  rcases Nat.lt_or_eq_of_le hlog with hlt | heq
  · have hbound := (rounded_bounds hn).1
    unfold rounded at hbound ⊢
    dsimp only at hbound ⊢
    split_ifs at hbound ⊢ <;> omega
  · have hmono := nearest_mono h (m.log2 - 52)
    unfold rounded
    dsimp only
    rw [← heq]
    split_ifs <;> omega

theorem log2_mul_two_pow {m : Nat} (hm : m ≠ 0) (i : Nat) : (m * 2 ^ i).log2 = m.log2 + i := by
  have hpos : 0 < 2 ^ i := Nat.two_pow_pos i
  refine (Nat.log2_eq_iff (Nat.mul_ne_zero hm (Nat.ne_of_gt hpos))).mpr ⟨?_, ?_⟩
  · rw [Nat.pow_add]
    exact Nat.mul_le_mul_right _ (Nat.log2_self_le hm)
  · rw [show m.log2 + i + 1 = m.log2 + 1 + i by omega, Nat.pow_add]
    exact Nat.mul_lt_mul_of_pos_right Nat.lt_log2_self hpos

theorem le_log2_two_pow_mul {n : Nat} (hn : n ≠ 0) : 52 ≤ (2 ^ 52 * n).log2 := by
  rw [Nat.mul_comm, log2_mul_two_pow hn]
  exact Nat.le_add_left _ _

/-- Zeros at the end change nothing but how many digits are dropped. -/
theorem rounded_mul_two_pow {m : Nat} (hm : 52 ≤ m.log2) (i : Nat) :
    (rounded (m * 2 ^ i)).1 = (rounded m).1 + i ∧ (rounded (m * 2 ^ i)).2 = (rounded m).2 := by
  have hne : m ≠ 0 := by
    rintro rfl
    exact absurd hm (by decide)
  rw [rounded, log2_mul_two_pow hne, show m.log2 + i - 52 = m.log2 - 52 + i by omega, nearest_mul_mul, rounded]
  split_ifs
  · exact ⟨rfl, rfl⟩
  · exact ⟨Nat.add_right_comm _ _ _, rfl⟩

/-- Numbers up to `2 ^ 53` keep their value. -/
theorem rounded_exact {n : Nat} (hpos : n ≠ 0) (h : n ≤ 2 ^ 53) :
    (rounded (2 ^ 52 * n)).2 * 2 ^ (rounded (2 ^ 52 * n)).1 = 2 ^ 52 * n := by
  rcases Nat.lt_or_eq_of_le h with hlt | rfl
  · have hlog : n.log2 ≤ 52 := Nat.le_of_lt_succ ((Nat.log2_lt hpos).mpr hlt)
    have hsplit : 2 ^ 52 * n = n * 2 ^ (52 - n.log2) * 2 ^ n.log2 := by
      rw [Nat.mul_comm, Nat.mul_assoc, ← Nat.pow_add, Nat.sub_add_cancel hlog]
    have hdigits : (2 ^ 52 * n).log2 - 52 = n.log2 := by
      rw [Nat.mul_comm, log2_mul_two_pow hpos, Nat.add_sub_cancel]
    have hfits : n * 2 ^ (52 - n.log2) < 2 ^ 53 := by
      refine (Nat.log2_lt (Nat.mul_ne_zero hpos (Nat.ne_of_gt (Nat.two_pow_pos _)))).mp ?_
      rw [log2_mul_two_pow hpos]
      omega
    rw [rounded, hdigits, hsplit, nearest_mul_two_pow, if_pos hfits]
  · rfl

/-! ## Packed doubles -/

theorem unpackSign_packComponents {spec : Format} {sign : Sign} {exponent : BitVec spec.exponentBits}
    {mantissa : BitVec spec.mantissaBitsWithoutImplicit} :
    unpackSign (packComponents spec sign exponent mantissa) = sign.toBitVec := by
  ext i hi
  obtain rfl : i = 0 := by omega
  simp [unpackSign, packComponents, BitVec.getLsbD_append, BitVec.getElem_append]

/-- The leading digit of a significand is not stored, and the exponent is stored with a bias. -/
theorem pack_normal (sign : Sign) {m b : Nat} (h : 0 < m) (hm : 2 ^ 52 ≤ m ∧ m < 2 ^ 53) (hb : b < 2047) :
    UnpackedFloat.pack Format.binary64 (.finite sign m (b - 1075) h) =
      packComponents Format.binary64 sign (BitVec.ofNat 11 b) (BitVec.ofNat 52 m) := by
  have hbias : ((b : Int) - 1075 + Format.binary64.exponentBias + (52 : Nat)).toNat = b := by
    change ((b : Int) - 1075 + 1023 + 52).toNat = b
    omega
  rw [UnpackedFloat.pack]
  dsimp only
  rw [hbias, log2_of_bounds hm, if_neg (by omega), if_pos (by decide)]

theorem unpack_components (sign : Sign) {m b : Nat} (h : 0 < m) (hm : 2 ^ 52 ≤ m ∧ m < 2 ^ 53) (hpos : 0 < b)
    (hb : b < 2047) :
    UnpackedFloat.unpack Format.binary64
      (packComponents Format.binary64 sign (BitVec.ofNat 11 b) (BitVec.ofNat 52 m)) =
        .finite sign m (b - 1075) h := by
  have hexponent : (BitVec.ofNat 11 b).toNat = b := by
    rw [BitVec.toNat_ofNat]
    omega
  have hne {c : Nat} (hc : c < 2 ^ 11) (hbc : b ≠ c) : BitVec.ofNat 11 b ≠ BitVec.ofNat 11 c := fun heq => by
    have := congrArg BitVec.toNat heq
    rw [hexponent, BitVec.toNat_ofNat, Nat.mod_eq_of_lt hc] at this
    exact hbc this
  have hmantissa : (1#1 ++ BitVec.ofNat 52 m).toNat = m := by
    rw [BitVec.toNat_append, ← Nat.shiftLeft_add_eq_or_of_lt (BitVec.ofNat 52 m).isLt, BitVec.toNat_ofNat]
    change 2 ^ 52 + m % 2 ^ 52 = m
    omega
  have hsign : Sign.ofBitVec sign.toBitVec = sign := by cases sign <;> rfl
  rw [UnpackedFloat.unpack]
  simp only [unpackExponent_packComponents, unpackMantissa_packComponents, unpackSign_packComponents, hsign,
    hexponent, hmantissa]
  rw [if_neg (show BitVec.ofNat 11 b ≠ -1#11 from hne (c := 2047) (by decide) (by omega)),
    if_neg (hne (c := 0) (by decide) (by omega))]
  rfl

/-- A finite double with a leading one comes back from its packed form. -/
theorem unpack_pack (sign : Sign) {m : Nat} {e : Int} (h : 0 < m) (hm : 2 ^ 52 ≤ m ∧ m < 2 ^ 53) (hlow : -1074 ≤ e)
    (hhigh : e ≤ 971) : (Float.Model.pack (.finite sign m e h)).unpack = .finite sign m e h := by
  obtain ⟨b, rfl⟩ : ∃ b : Nat, e = b - 1075 := ⟨(e + 1075).toNat, by omega⟩
  change UnpackedFloat.unpack Format.binary64 (UnpackedFloat.pack Format.binary64 _) = _
  rw [pack_normal sign h hm (by omega), unpack_components sign h hm (by omega) (by omega)]

/-! ## Integers -/

theorem rounded_fst_le (m : Nat) : (rounded m).1 ≤ m.log2 - 52 + 1 := by
  rw [rounded]
  split
  · exact Nat.le_succ _
  · exact Nat.le_refl _

/-- A rounded number of at least 53 digits comes back from its packed form. -/
theorem unpack_pack_rounded (sign : Sign) {m : Nat} {e : Int} (hm : 52 ≤ m.log2) (hlow : -1074 ≤ e)
    (hhigh : e + (m.log2 : Int) ≤ 1000) :
    ∃ h, (Float.Model.pack (roundWithAccuracy Format.binary64 sign m e .exact)).unpack =
      .finite sign (rounded m).2 (e + (rounded m).1) h := by
  obtain ⟨h, hround⟩ := roundWithAccuracy_eq sign hm hlow
  have hle := rounded_fst_le m
  exact ⟨h, by rw [hround, unpack_pack sign h (rounded_bounds hm) (by omega) (by omega)]⟩

/-- The significand of the double nearest to a positive integer. -/
def significand (n : Nat) : Nat := (rounded (2 ^ 52 * n)).2

/-- The exponent of the double nearest to a positive integer. -/
def exponent (n : Nat) : Int := (rounded (2 ^ 52 * n)).1 - 52

/-- Rounding keeps the order of integers: the exponents decide, and then the significands. -/
theorem exponent_lt_or_of_le {m n : Nat} (hm : m ≠ 0) (h : m ≤ n) :
    exponent m < exponent n ∨ exponent m = exponent n ∧ significand m ≤ significand n := by
  rw [exponent, exponent, significand, significand]
  have hrounded := rounded_mono (le_log2_two_pow_mul hm) (Nat.mul_le_mul_left (2 ^ 52) h)
  rcases Prod.Lex.toLex_le_toLex.mp hrounded with hlt | ⟨heq, hle⟩
  · exact .inl (Int.sub_lt_sub_right (Int.ofNat_lt.mpr hlt) 52)
  · exact .inr ⟨by rw [heq], hle⟩

/-- Up to `2 ^ 53` integers are not rounded into each other. -/
theorem eq_of_rounded_eq {m n : Nat} (hm : m ≠ 0) (hn : n ≠ 0) (hm' : m ≤ 2 ^ 53) (hn' : n ≤ 2 ^ 53)
    (he : exponent m = exponent n) (hs : significand m = significand n) : m = n := by
  rw [exponent, exponent] at he
  rw [significand, significand] at hs
  have hdropped : (rounded (2 ^ 52 * m)).1 = (rounded (2 ^ 52 * n)).1 := by omega
  have hexact := rounded_exact hm hm'
  rw [hdropped, hs, rounded_exact hn hn'] at hexact
  exact (Nat.eq_of_mul_eq_mul_left (Nat.two_pow_pos 52) hexact).symm

/-- A double is the integer of this size and sign, rounded. -/
def Holds (sign : Sign) (n : Nat) (x : UnpackedFloat) : Prop := ∃ h, x = .finite sign (significand n) (exponent n) h

theorem log2_lt_of_lt {n : Nat} (hpos : n ≠ 0) (hn : n < 2 ^ 64) : n.log2 < 64 := (Nat.log2_lt hpos).mpr hn

theorem finite_congr (sign : Sign) {m m' : Nat} {e e' : Int} {h : 0 < m} {h' : 0 < m'} (hm : m = m') (he : e = e') :
    UnpackedFloat.finite sign m e h = .finite sign m' e' h' := by
  subst hm he
  rfl

/-- However many zeros stand at the end of an integer, rounding comes to the same. -/
theorem holds_of_round (sign : Sign) {n i : Nat} (hpos : n ≠ 0) (hn : n < 2 ^ 64) (hi : 52 ≤ i) (hi' : i ≤ 104) :
    Holds sign n
      (Float.Model.pack (roundWithAccuracy Format.binary64 sign (n * 2 ^ i) (-i : Int) .exact)).unpack := by
  have hlog := log2_mul_two_pow hpos i
  have hlt := log2_lt_of_lt hpos hn
  obtain ⟨h, hunpack⟩ := unpack_pack_rounded sign (show 52 ≤ (n * 2 ^ i).log2 by omega)
    (show (-1074 : Int) ≤ -i by omega) (by omega)
  have hzeros : n * 2 ^ i = 2 ^ 52 * n * 2 ^ (i - 52) := by
    rw [Nat.mul_comm (2 ^ 52), Nat.mul_assoc, ← Nat.pow_add, Nat.add_sub_cancel' hi]
  obtain ⟨hdropped, hsignificand⟩ :=
    rounded_mul_two_pow (le_log2_two_pow_mul hpos) (i - 52)
  rw [← hzeros] at hdropped hsignificand
  have hpositive : 0 < significand n := by rwa [hsignificand] at h
  refine ⟨hpositive, hunpack.trans (finite_congr sign hsignificand ?_)⟩
  rw [hdropped, exponent]
  omega

theorem mul_finite (s t : Sign) {m n : Nat} {d e : Int} (hm : 0 < m) (hn : 0 < n) :
    UnpackedFloat.mul Format.binary64 (.finite s m d hm) (.finite t n e hn) =
      roundWithAccuracy Format.binary64 (s * t) (m * n) (d + e) .exact := rfl

theorem rounded_of_bounds {m : Nat} (hm : 2 ^ 52 ≤ m ∧ m < 2 ^ 53) : (rounded m).1 = 0 ∧ (rounded m).2 = m := by
  have hnearest : nearest m 0 = m := by simpa using nearest_mul_two_pow m 0
  rw [rounded, log2_of_bounds hm, Nat.sub_self, hnearest, if_pos hm.2]
  exact ⟨rfl, rfl⟩

/-- A machine word below `2 ^ 53` is filled up to 53 digits. -/
theorem ofUInt64_eq {n : Nat} (hpos : n ≠ 0) (h : n < 2 ^ 53) :
    Float.Model.ofUInt64 n.toUInt64 =
      Float.Model.pack (roundWithAccuracy Format.binary64 .positive (n * 2 ^ (52 - n.log2))
        (-(52 - n.log2 : Nat) : Int) .exact) := by
  have hlog : n.log2 ≤ 52 := Nat.le_of_lt_succ ((Nat.log2_lt hpos).mpr h)
  have hval : n.toUInt64.toNat = n := by
    rw [UInt64.toNat_ofNat']
    omega
  have hgt : compare (n : Int) 0 = .gt := Std.compare_eq_gt.mpr (by omega)
  have hshift : ((0 : Int) - Format.binary64.targetExponent (totalExponent n 0)).toNat = 52 - n.log2 := by
    have htarget : Format.binary64.targetExponent (totalExponent n 0) = max ((n.log2 : Int) + 1 + 0 - 53) (-1074) := rfl
    rw [htarget]
    omega
  change Float.Model.pack (UnpackedFloat.normalize Format.binary64 (n.toUInt64.toNat : Int) 0 .positive) = _
  rw [hval, UnpackedFloat.normalize, hgt]
  dsimp only
  rw [Int.toNat_natCast, UnpackedFloat.round]
  dsimp only
  rw [decreaseExponent, hshift, Nat.shiftLeft_eq, Int.zero_sub]

/-- A number below `2 ^ 53` fits into a double, which is multiplied by one then. -/
theorem holds_ofNat_small {n : Nat} (hpos : n ≠ 0) (h : n < 2 ^ 53) :
    Holds .positive n (Float.ofNat n).toModel.unpack := by
  have hnat : Float.ofNat n = Float.ofScientific n false 0 := rfl
  have hmul : (Float.ofNat n).toModel =
      Float.Model.mul (Float.Model.ofUInt64 n.toUInt64) (Float.ofBits 0x3FF0000000000000).toModel := by
    rw [hnat, Float.ofScientific, dif_pos ⟨h, by decide⟩]
    rfl
  have hone : (Float.ofBits 0x3FF0000000000000).toModel.unpack =
      .finite .positive (2 ^ 52) (-52) (Nat.two_pow_pos 52) := rfl
  have hlog : n.log2 ≤ 52 := Nat.le_of_lt_succ ((Nat.log2_lt hpos).mpr h)
  have hdigits : (n * 2 ^ (52 - n.log2)).log2 = 52 := by rw [log2_mul_two_pow hpos]; omega
  obtain ⟨hp, hunpack⟩ := unpack_pack_rounded .positive (Nat.le_of_eq hdigits.symm)
    (show (-1074 : Int) ≤ (-(52 - n.log2 : Nat) : Int) by omega) (by omega)
  obtain ⟨hdropped, hsignificand⟩ := rounded_of_bounds
    ((Nat.log2_eq_iff (Nat.mul_ne_zero hpos (Nat.ne_of_gt (Nat.two_pow_pos _)))).mp hdigits)
  have hexponent : (-(52 - n.log2 : Nat) : Int) + ((rounded (n * 2 ^ (52 - n.log2))).1 : Nat) + -52 =
      (-(52 - n.log2 + 52 : Nat) : Int) := by
    rw [hdropped]
    omega
  have hproduct : (rounded (n * 2 ^ (52 - n.log2))).2 * 2 ^ 52 = n * 2 ^ (52 - n.log2 + 52) := by
    rw [hsignificand, Nat.mul_assoc, ← Nat.pow_add]
  rw [hmul, Float.Model.mul, ofUInt64_eq hpos h, hunpack, hone, mul_finite, hexponent, hproduct]
  exact holds_of_round _ hpos (by omega) (by omega) (by omega)

/-- A greater number is multiplied by one with all of its digits. -/
theorem holds_ofNat_large {n : Nat} (h : ¬ n < 2 ^ 53) (hn : n < 2 ^ 64) :
    Holds .positive n (Float.ofNat n).toModel.unpack := by
  have hpos : n ≠ 0 := by omega
  have hnat : Float.ofNat n = Float.ofScientific n false 0 := rfl
  have hdigits : n <<< Format.binary64.mantissaBits * 10 ^ (0 : Int).toNat = n * 2 ^ 53 := by
    rw [Nat.shiftLeft_eq]
    exact Nat.mul_one _
  have hbound : ¬ (0 : Int) < -((2 ^ Format.binary64.exponentBits : Int) + n.log2) := by
    change ¬ (0 : Int) < -(2048 + n.log2)
    omega
  rw [hnat, Float.ofScientific, dif_neg (fun hh => h hh.1)]
  change Holds .positive n (Float.Model.pack (UnpackedFloat.ofScientific Format.binary64 n 0)).unpack
  rw [UnpackedFloat.ofScientific, dif_neg hpos, if_neg (by decide), if_neg hbound, if_pos (by decide), mul_finite,
    hdigits]
  exact holds_of_round .positive hpos hn (by decide) (by decide)

theorem holds_ofNat {n : Nat} (hpos : n ≠ 0) (hn : n < 2 ^ 64) : Holds .positive n (Float.ofNat n).toModel.unpack := by
  by_cases h : n < 2 ^ 53
  · exact holds_ofNat_small hpos h
  · exact holds_ofNat_large h hn

/-- The double of a negative integer is the negated one of its size. -/
theorem holds_neg {n : Nat} {x : Float} (hpos : n ≠ 0) (hn : n < 2 ^ 64) (h : Holds .positive n x.toModel.unpack) :
    Holds .negative n x.neg.toModel.unpack := by
  obtain ⟨hp, hx⟩ := h
  have hneg : x.neg.toModel = Float.Model.pack x.toModel.unpack.neg := rfl
  have hlog := log2_mul_two_pow hpos 52
  rw [Nat.mul_comm] at hlog
  have hlt := log2_lt_of_lt hpos hn
  have hle := rounded_fst_le (2 ^ 52 * n)
  have hbounds := rounded_bounds (le_log2_two_pow_mul hpos)
  refine ⟨hp, ?_⟩
  rw [hneg, hx]
  exact unpack_pack .negative hp hbounds (by unfold exponent; omega) (by unfold exponent; omega)

end NamedRows.Rounding
