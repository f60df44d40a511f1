import NamedRows.Text.Span

/-!
# Spans and the bytes of texts

Between two positions that count whole characters a span cuts out the characters that stand there
(`slice?_append`), and these are the positions that lie on boundaries of characters (`isValid_byteLength`). In the UTF-8
form of a text an ASCII character is the byte of its own number (`utf8EncodeChar_of_ascii`), and all bytes of longer
characters lie beyond ASCII (`le_of_mem_utf8EncodeChar`). So a class of characters that ASCII decides can be told from
the bytes (`Spells`), and holds at the front of a text exactly as far as at the front of its bytes (`takeWhile_encode`).
-/

namespace NamedRows.Text

variable {a b c : List Char}

/-! ## Spans -/

theorem append_cons_eq (a : List Char) (x : Char) (b : List Char) : a ++ x :: b = a ++ [x] ++ b := by simp

/-- A text is split behind a character and `n` more ones. -/
theorem split_after {cs : List Char} {x : Char} (h : cs = a ++ x :: b) (n : Nat) :
    cs = a ++ x :: b.take n ++ b.drop n := by
  rw [h, List.append_assoc, List.cons_append, List.take_append_drop]

@[simp] theorem byteLength_append (a b : List Char) : byteLength (a ++ b) = byteLength a + byteLength b := by
  induction a with
  | nil => simp [byteLength]
  | cons x a ih => simp only [List.cons_append, byteLength, ih]; omega

theorem byteLength_pos (h : a ≠ []) : 0 < byteLength a := by
  cases a with
  | nil => exact absurd rfl h
  | cons x a => have := x.utf8Size_pos; simp only [byteLength]; omega

theorem byteLength_lt_append (a : List Char) (h : b ≠ []) : byteLength a < byteLength (a ++ b) := by
  rw [byteLength_append]
  exact Nat.lt_add_of_pos_right (byteLength_pos h)

theorem dropBytes?_append (a b : List Char) : dropBytes? (byteLength a) (a ++ b) = some b := by
  induction a with
  | nil => cases b <;> rfl
  | cons x a ih =>
    have := x.utf8Size_pos
    rw [byteLength, List.cons_append, dropBytes?, if_neg (by omega), if_pos (by omega), Nat.add_sub_cancel_left, ih]

theorem takeBytes?_append (a b : List Char) : takeBytes? (byteLength a) (a ++ b) = some a := by
  induction a with
  | nil => cases b <;> rfl
  | cons x a ih =>
    have := x.utf8Size_pos
    rw [byteLength, List.cons_append, takeBytes?, if_neg (by omega), if_pos (by omega), Nat.add_sub_cancel_left, ih]
    rfl

/-- A span between two boundaries cuts out what stands there. -/
theorem slice?_append (a b c : List Char) :
    slice? (a ++ b ++ c) (byteLength a) (byteLength a + byteLength b) = some b := by
  rw [slice?, if_pos (Nat.le_add_right _ _), List.append_assoc, dropBytes?_append, Nat.add_sub_cancel_left]
  exact takeBytes?_append b c

/-! ## Bytes -/

/-- The bytes of the UTF-8 form of a text. -/
def encode (cs : List Char) : List UInt8 := cs.flatMap String.utf8EncodeChar

@[simp] theorem length_encode (cs : List Char) : (encode cs).length = byteLength cs := by
  induction cs with
  | nil => rfl
  | cons x cs ih =>
    rw [encode, List.flatMap_cons, List.length_append, String.length_utf8EncodeChar, byteLength]
    exact congrArg _ ih

theorem encode_append (a b : List Char) : encode (a ++ b) = encode a ++ encode b := List.flatMap_append

/-- A text is stored as the bytes of its characters. -/
theorem toByteArray_eq_encode (s : String) : s.toByteArray.data.toList = encode s.toList := by
  have h := String.toByteArray_ofList (l := s.toList)
  rw [String.ofList_toList] at h
  rw [h, List.utf8Encode, List.toList_data_toByteArray, encode]

theorem utf8ByteSize_eq_byteLength (s : String) : s.utf8ByteSize = byteLength s.toList := by
  rw [← String.size_toByteArray, ByteArray.size, ← Array.length_toList, toByteArray_eq_encode, length_encode]

/-- Behind whole characters there is a boundary of characters. -/
theorem isValid_byteLength {s : String} (h : s.toList = a ++ b) : String.Pos.Raw.IsValid s ⟨byteLength a⟩ := by
  refine String.Pos.Raw.isValid_iff_exists_append.mpr ⟨String.ofList a, String.ofList b, ?_, ?_⟩
  · rw [← String.ofList_append, ← h, String.ofList_toList]
  · rw [String.rawEndPos, utf8ByteSize_eq_byteLength, String.toList_ofList]

theorem utf8EncodeChar_eq_cons (x : Char) : ∃ y ys, String.utf8EncodeChar x = y :: ys := by
  refine List.exists_cons_of_length_pos ?_
  rw [String.length_utf8EncodeChar]
  exact x.utf8Size_pos

/-- An ASCII character is one byte. -/
theorem utf8EncodeChar_of_ascii {x : Char} (h : x.toNat < 128) : String.utf8EncodeChar x = [UInt8.ofNat x.toNat] := by
  have h : x.val.toNat ≤ 127 := Nat.le_of_lt_succ h
  simp only [String.utf8EncodeChar, if_pos h]
  rfl

/-- The bytes of other characters are beyond ASCII. -/
theorem le_of_mem_utf8EncodeChar {x : Char} (h : 128 ≤ x.toNat) {y : UInt8} (hy : y ∈ String.utf8EncodeChar x) :
    128 ≤ y.toNat := by
  have h : ¬ x.val.toNat ≤ 127 := Nat.not_le.mpr h
  simp only [String.utf8EncodeChar, if_neg h] at hy
  split at hy
  · simp only [List.mem_cons, List.not_mem_nil, or_false] at hy
    rcases hy with rfl | rfl <;> simp only [UInt8.toNat_ofNat'] <;> omega
  · split at hy <;> simp only [List.mem_cons, List.not_mem_nil, or_false] at hy
    · rcases hy with rfl | rfl | rfl <;> simp only [UInt8.toNat_ofNat'] <;> omega
    · rcases hy with rfl | rfl | rfl | rfl <;> simp only [UInt8.toNat_ofNat'] <;> omega

theorem utf8Size_of_ascii {x : Char} (h : x.toNat < 128) : x.utf8Size = 1 := by
  rw [← String.length_utf8EncodeChar, utf8EncodeChar_of_ascii h, List.length_singleton]

theorem byteLength_snoc {x : Char} (h : x.toNat < 128) (a : List Char) : byteLength (a ++ [x]) = byteLength a + 1 := by
  rw [byteLength_append, byteLength, byteLength, utf8Size_of_ascii h]

/-! ## Classes of characters -/

/-- A class of bytes spells a class of characters: it has all bytes of the characters in it, and no others. -/
def Spells (p : UInt8 → Bool) (q : Char → Bool) : Prop := ∀ x, ∀ y ∈ String.utf8EncodeChar x, p y = q x

variable {p : UInt8 → Bool} {q : Char → Bool}

/-- A class of bytes holds at the front of the bytes of a text as far as the characters that it spells. -/
theorem takeWhile_encode (h : Spells p q) (cs : List Char) : (encode cs).takeWhile p = encode (cs.takeWhile q) := by
  induction cs with
  | nil => rfl
  | cons x cs ih =>
    rw [encode, List.flatMap_cons]
    cases hx : q x with
    | true =>
      rw [List.takeWhile_append_of_pos fun y hy => (h x y hy).trans hx, List.takeWhile_cons_of_pos hx]
      exact congrArg _ ih
    | false =>
      obtain ⟨y, ys, hys⟩ := utf8EncodeChar_eq_cons x
      have hy : p y = false := (h x y (by rw [hys]; exact List.mem_cons_self)).trans hx
      rw [List.takeWhile_cons_of_neg (by simp [hx]), hys, List.cons_append, List.takeWhile_cons_of_neg (by simp [hy])]
      rfl

theorem toNat_ofUInt8 (y : UInt8) : (Char.ofUInt8 y).toNat = y.toNat := rfl

theorem ofUInt8_of_ascii {x : Char} (h : x.toNat < 128) : Char.ofUInt8 (UInt8.ofNat x.toNat) = x := by
  have : (UInt8.ofNat x.toNat).toNat = x.toNat := by rw [UInt8.toNat_ofNat']; omega
  exact Char.toNat_inj.mp this

/-- A class of ASCII characters is told from the characters of the bytes' own numbers. -/
theorem spells_of_ascii (h : ∀ x, q x = true → x.toNat < 128) : Spells (fun y => q (Char.ofUInt8 y)) q := by
  intro x y hy
  by_cases hx : x.toNat < 128
  · rw [utf8EncodeChar_of_ascii hx, List.mem_singleton] at hy
    subst hy
    exact congrArg q (ofUInt8_of_ascii hx)
  · have hle := le_of_mem_utf8EncodeChar (Nat.not_lt.mp hx) hy
    rw [Bool.eq_false_iff.mpr fun hq => hx (h x hq)]
    refine Bool.eq_false_iff.mpr fun hq => ?_
    have := h _ hq
    rw [toNat_ofUInt8] at this
    omega

/-- All characters but one ASCII character are told from the bytes. -/
theorem spells_ne {z : Char} (h : z.toNat < 128) : Spells (· ≠ UInt8.ofNat z.toNat) (· ≠ z) := by
  intro x y hy
  refine decide_eq_decide.mpr (not_congr ?_)
  by_cases hx : x.toNat < 128
  · rw [utf8EncodeChar_of_ascii hx, List.mem_singleton] at hy
    constructor
    · intro hyz
      rw [← ofUInt8_of_ascii hx, ← hy, hyz, ofUInt8_of_ascii h]
    · rintro rfl
      exact hy
  · have hle := le_of_mem_utf8EncodeChar (Nat.not_lt.mp hx) hy
    constructor
    · rintro rfl
      rw [UInt8.toNat_ofNat'] at hle
      omega
    · rintro rfl
      exact absurd h hx

end NamedRows.Text
