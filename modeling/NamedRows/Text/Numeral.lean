/-!
# Decimal numerals

Writing integers in decimal (`ofNat`, `ofInt`) and reading them back (`toNat?`, `toInt?`, `toInt64?`). A numeral is an
optional sign followed by at least one ASCII digit; leading zeros are allowed and blanks are not. Reading what was
written gives the number back (`toNat?_ofNat`, `toInt?_ofInt`).
-/

namespace NamedRows.Text.Numeral

/-- The decimal digits of a number, most significant first. -/
def ofNat (n : Nat) : List Char := Nat.toDigits 10 n

/-- The decimal digits of an integer, with a minus sign if it is negative. -/
def ofInt : Int → List Char
  | .ofNat n => ofNat n
  | .negSucc n => '-' :: ofNat (n + 1)

/-- The number written by a non-empty run of ASCII digits. -/
def toNat? (cs : List Char) : Option Nat :=
  if cs ≠ [] ∧ cs.all Char.isDigit then some (Nat.ofDigitChars 10 cs 0) else none

/-- The integer written by a numeral with an optional sign. -/
def toInt? : List Char → Option Int
  | '-' :: cs => (toNat? cs).map fun n => -(n : Int)
  | '+' :: cs => (toNat? cs).map Int.ofNat
  | cs => (toNat? cs).map Int.ofNat

/-- Whether a signed integer of 64 bits can be this one. -/
def inRange (n : Int) : Prop := Int64.minValue.toInt ≤ n ∧ n ≤ Int64.maxValue.toInt

instance (n : Int) : Decidable (inRange n) := inferInstanceAs (Decidable (_ ∧ _))

/-- The 64-bit integer written by a numeral; numbers beyond 64 bits are refused. -/
def toInt64? (cs : List Char) : Option Int64 := do
  let n ← toInt? cs
  if inRange n then some (Int64.ofInt n) else none

theorem ofNat_ne_nil (n : Nat) : ofNat n ≠ [] := Nat.toDigits_ne_nil

theorem isDigit_of_mem_ofNat {c : Char} {n : Nat} (h : c ∈ ofNat n) : c.isDigit = true :=
  Nat.isDigit_of_mem_toDigits (by decide) (by decide) h

/-- Reading the digits of a number gives the number. -/
theorem toNat?_ofNat (n : Nat) : toNat? (ofNat n) = some n := by
  have hall : (ofNat n).all Char.isDigit = true := List.all_eq_true.2 fun c hc => isDigit_of_mem_ofNat hc
  rw [toNat?, if_pos ⟨ofNat_ne_nil n, hall⟩, ofNat, Nat.ofDigitChars_toDigits (by decide) (by decide)]

theorem toInt?_of_head_ne {cs : List Char} (h1 : cs.head? ≠ some '-') (h2 : cs.head? ≠ some '+') :
    toInt? cs = (toNat? cs).map Int.ofNat := by
  unfold toInt?
  split <;> simp_all

/-- Reading the numeral of an integer gives the integer. -/
theorem toInt?_ofInt (n : Int) : toInt? (ofInt n) = some n := by
  cases n with
  | negSucc n => simp [ofInt, toInt?, toNat?_ofNat, Int.negSucc_eq]
  | ofNat n =>
    have hd : ∀ c, (ofNat n).head? = some c → c.isDigit = true := fun c hc =>
      isDigit_of_mem_ofNat (List.mem_of_head? hc)
    have h1 : (ofNat n).head? ≠ some '-' := fun h => absurd (hd _ h) (by decide)
    have h2 : (ofNat n).head? ≠ some '+' := fun h => absurd (hd _ h) (by decide)
    simp [ofInt, toInt?_of_head_ne h1 h2, toNat?_ofNat]

end NamedRows.Text.Numeral
