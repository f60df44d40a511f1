import NamedRows.Text.Blank
import NamedRows.Text.Numeral

/-!
# What numerals are

A numeral apart from how it is read: digits, with a sign or without (`Writes`), and a literal is one with blanks around
it (`Text.Literal`). Reading gives an integer exactly for the texts that write it (`toInt?_eq_some`,
`toInt64?_eq_some`, `toInt64?_trim_eq_some`), the numeral that is printed among them (`writes_ofInt`,
`literal_toString`).
-/

namespace NamedRows.Text

variable {left right cs literal : List Char}

/-! ## Trimming -/

/-- Trimming takes blanks away. -/
theorem trim_append (hl : ∀ c ∈ left, isBlank c = true) (hr : ∀ c ∈ right, isBlank c = true)
    (hcs : ∀ c ∈ cs, isBlank c = false) (hne : cs ≠ []) : trim (left ++ cs ++ right) = cs := by
  cases cs with
  | nil => exact absurd rfl hne
  | cons c rest =>
    have hhead : ¬ isBlank c = true := by simp [hcs c List.mem_cons_self]
    have hright : ∀ c ∈ right.reverse, isBlank c = true := fun c hc => hr c (List.mem_reverse.mp hc)
    have hback : ∀ a ∈ (c :: rest).reverse, isBlank a = false := fun a ha => hcs a (List.mem_reverse.mp ha)
    rw [trim, List.append_assoc, List.dropWhile_append_of_pos hl, List.cons_append, List.dropWhile_cons_of_neg hhead,
      ← List.cons_append, List.reverse_append, List.dropWhile_append_of_pos hright, dropWhile_eq_self hback,
      List.reverse_reverse]

/-- What trimming takes away are blanks. -/
theorem exists_trim (cs : List Char) :
    ∃ left right, cs = left ++ trim cs ++ right ∧ (∀ c ∈ left, isBlank c = true) ∧ ∀ c ∈ right, isBlank c = true := by
  refine ⟨cs.takeWhile isBlank, ((cs.dropWhile isBlank).reverse.takeWhile isBlank).reverse, ?_, ?_, ?_⟩
  · rw [trim, List.append_assoc, ← List.reverse_append, List.takeWhile_append_dropWhile, List.reverse_reverse,
      List.takeWhile_append_dropWhile]
  · exact List.all_eq_true.mp List.all_takeWhile
  · intro c hc
    exact List.all_eq_true.mp List.all_takeWhile c (List.mem_reverse.mp hc)

/-! ## Numerals -/

namespace Numeral

/-- A digit is no blank. -/
theorem isBlank_of_isDigit {c : Char} (h : c.isDigit = true) : isBlank c = false := by
  have hrange : 48 ≤ c.toNat ∧ c.toNat ≤ 57 := by
    simpa [Char.isDigit, UInt32.le_iff_toNat_le] using h
  simp only [isBlank, Bool.or_eq_false_iff, Bool.and_eq_false_iff, decide_eq_false_iff_not, beq_eq_false_iff_ne]
  omega

theorem inRange_iff {n : Int} : inRange n ↔ -9223372036854775808 ≤ n ∧ n < 9223372036854775808 := by
  have hmin : Int64.minValue.toInt = -9223372036854775808 := by decide
  have hmax : Int64.maxValue.toInt = 9223372036854775808 - 1 := by decide
  rw [inRange, hmin, hmax, Int.le_sub_one_iff]

theorem inRange_toInt (n : Int64) : inRange n.toInt := inRange_iff.mpr ⟨Int64.le_toInt n, Int64.toInt_lt n⟩

/-- Decimal digits, one at least, and the number they stand for. -/
def Digits (cs : List Char) (n : Nat) : Prop :=
  cs ≠ [] ∧ (∀ c ∈ cs, c.isDigit = true) ∧ n = Nat.ofDigitChars 10 cs 0

/-- Digits with a sign or without stand for an integer. -/
inductive Writes : List Char → Int → Prop
  | bare {cs : List Char} {n : Nat} (h : Digits cs n) : Writes cs n
  | plus {cs : List Char} {n : Nat} (h : Digits cs n) : Writes ('+' :: cs) n
  | minus {cs : List Char} {n : Nat} (h : Digits cs n) : Writes ('-' :: cs) (-n)

theorem toNat?_eq_some {n : Nat} : toNat? cs = some n ↔ Digits cs n := by
  rw [toNat?, Option.ite_none_right_eq_some, Option.some.injEq, List.all_eq_true, and_assoc, Digits, @eq_comm _ n]

theorem toInt?_eq_some {n : Int} : toInt? cs = some n ↔ Writes cs n := by
  constructor
  · intro h
    unfold toInt? at h
    split at h
    · obtain ⟨m, hm, rfl⟩ := Option.map_eq_some_iff.mp h
      obtain ⟨k, hk, hkm⟩ := Option.bind_eq_some_iff.mp hm
      cases hkm
      exact .minus (toNat?_eq_some.mp hk)
    · obtain ⟨m, hm, rfl⟩ := Option.map_eq_some_iff.mp h
      exact .plus (toNat?_eq_some.mp hm)
    · obtain ⟨m, hm, rfl⟩ := Option.map_eq_some_iff.mp h
      exact .bare (toNat?_eq_some.mp hm)
  · rintro (h | h | h)
    · have hdigit : ∀ c, cs.head? = some c → c.isDigit = true := fun c hc => h.2.1 c (List.mem_of_head? hc)
      have hminus : cs.head? ≠ some '-' := fun hc => absurd (hdigit _ hc) (by decide)
      have hplus : cs.head? ≠ some '+' := fun hc => absurd (hdigit _ hc) (by decide)
      rw [toInt?_of_head_ne hminus hplus, toNat?_eq_some.mpr h]
      rfl
    · rw [toInt?, toNat?_eq_some.mpr h]
      rfl
    · rw [toInt?, toNat?_eq_some.mpr h]
      rfl

theorem toInt64?_eq_some {n : Int64} : toInt64? cs = some n ↔ Writes cs n.toInt := by
  rw [← toInt?_eq_some]
  unfold toInt64?
  cases toInt? cs with
  | none => simp
  | some m =>
    simp only [Option.bind_eq_bind, Option.bind_some, Option.ite_none_right_eq_some, Option.some.injEq]
    constructor
    · rintro ⟨hrange, rfl⟩
      obtain ⟨hle, hlt⟩ := inRange_iff.mp hrange
      exact (Int64.toInt_ofInt_of_le hle hlt).symm
    · rintro rfl
      exact ⟨inRange_toInt n, Int64.ofInt_toInt n⟩

/-- The decimal numeral of an integer is one of those that write it. -/
theorem writes_ofInt (n : Int) : Writes (ofInt n) n := toInt?_eq_some.mp (toInt?_ofInt n)

theorem Writes.ne_nil {n : Int} (h : Writes cs n) : cs ≠ [] := by
  rcases h with h | h | h
  · exact h.1
  · exact List.cons_ne_nil _ _
  · exact List.cons_ne_nil _ _

/-- A numeral consists of digits, apart from its sign. -/
theorem Writes.mem {n : Int} (h : Writes cs n) {c : Char} (hc : c ∈ cs) : c = '+' ∨ c = '-' ∨ c.isDigit = true := by
  rcases h with h | h | h
  · exact .inr (.inr (h.2.1 c hc))
  · rcases List.mem_cons.mp hc with rfl | hc
    · exact .inl rfl
    · exact .inr (.inr (h.2.1 c hc))
  · rcases List.mem_cons.mp hc with rfl | hc
    · exact .inr (.inl rfl)
    · exact .inr (.inr (h.2.1 c hc))

theorem Writes.isBlank {n : Int} (h : Writes cs n) {c : Char} (hc : c ∈ cs) : Text.isBlank c = false := by
  rcases h.mem hc with rfl | rfl | hd
  · decide
  · decide
  · exact isBlank_of_isDigit hd

/-- The numeral of an integer is read as the integer, as far as 64 bits hold it. -/
theorem toInt64?_trim_ofInt (n : Int) :
    toInt64? (trim (ofInt n)) = if inRange n then some (Int64.ofInt n) else none := by
  rw [trim_eq_self fun c hc => (writes_ofInt n).isBlank hc]
  show (toInt? (ofInt n) >>= _) = _
  rw [toInt?_ofInt]
  rfl

/-- The numeral of an integer of 64 bits is read as the integer. -/
theorem toInt64?_trim_toInt (n : Int64) : toInt64? (trim (ofInt n.toInt)) = some n := by
  rw [toInt64?_trim_ofInt, if_pos (inRange_toInt n), Int64.ofInt_toInt]

end Numeral

/-! ## Literals -/

variable {n : Int64}

/-- The numeral of an integer of 64 bits, with any blanks around it. -/
def Literal (literal : List Char) (n : Int64) : Prop :=
  ∃ left numeral right, literal = left ++ numeral ++ right ∧ (∀ c ∈ left, isBlank c = true) ∧
    (∀ c ∈ right, isBlank c = true) ∧ Numeral.Writes numeral n.toInt

theorem toInt64?_trim_eq_some : Numeral.toInt64? (trim literal) = some n ↔ Literal literal n := by
  rw [Numeral.toInt64?_eq_some]
  constructor
  · intro h
    obtain ⟨left, right, hsplit, hl, hr⟩ := exists_trim literal
    exact ⟨left, trim literal, right, hsplit, hl, hr, h⟩
  · rintro ⟨left, numeral, right, rfl, hl, hr, h⟩
    rwa [trim_append hl hr (fun c hc => h.isBlank hc) h.ne_nil]

/-- The decimal numeral of an integer is a literal. -/
theorem literal_toString (n : Int64) : Literal (toString n).toList n := by
  have hnumeral : (toString n).toList = Numeral.ofInt n.toInt := by
    show (Int.repr n.toInt).toList = _
    cases n.toInt with
    | ofNat m => exact Nat.toList_repr
    | negSucc m => simp [Int.repr, Numeral.ofInt, Numeral.ofNat, String.toList_append]
  rw [hnumeral, ← toInt64?_trim_eq_some]
  exact Numeral.toInt64?_trim_toInt n

end NamedRows.Text
