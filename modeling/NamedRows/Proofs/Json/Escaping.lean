import NamedRows.Json.Grammar

/-!
# Strings that are written

An escaping is faithful if each of its letters stands for the character that it is written for, and if what it leaves
plain may be plain (`Escaping.Faithful`). Then a text between its quotes spells the codes of its characters
(`Escaping.Faithful.spells`), none of which is half of another one, so it is the string of that text
(`Escaping.Faithful.derives`).
-/

namespace NamedRows.Json

/-! ## Hexadecimal codes -/

theorem hexDigit?_digitChar : ∀ d < 16, Text.hexDigit? (Nat.digitChar d) = some d := by decide

/-- Four digits hold a code below `2 ^ 16`. -/
theorem hexNumber?_hex4 {n : Nat} (h : n < 0x10000) : Text.hexNumber? (hex4 n) = some n := by
  have hdigit (k : Nat) : Text.hexDigit? (Nat.digitChar (k % 16)) = some (k % 16) :=
    hexDigit?_digitChar _ (Nat.mod_lt _ (by decide))
  have hall : (hex4 n).all Text.isHexDigit = true := by
    simp [hex4, Text.isHexDigit, hdigit]
  have hvalue : Text.hexNumber (hex4 n) =
      (((0 * 16 + n / 4096 % 16) * 16 + n / 256 % 16) * 16 + n / 16 % 16) * 16 + n % 16 := by
    simp [hex4, Text.hexNumber, hdigit]
  rw [Text.hexNumber?, if_pos hall, hvalue]
  congr 1
  omega

/-! ## Characters -/

/-- No character is half of another one. -/
theorem not_half (c : Char) : isHighHalf c.toNat = false ∧ isLowHalf c.toNat = false := by
  have hvalid : c.toNat < 0xD800 ∨ 0xDFFF < c.toNat ∧ c.toNat < 0x110000 := c.valid
  simp only [isHighHalf, isLowHalf, Bool.and_eq_false_iff, decide_eq_false_iff_not]
  omega

theorem ofCodes_toNat (cs : List Char) : ofCodes (cs.map Char.toNat) = some cs := by
  induction cs with
  | nil => rfl
  | cons c cs ih =>
    obtain ⟨hhigh, hlow⟩ := not_half c
    rw [List.map_cons, ofCodes.eq_def]
    simp [hhigh, hlow, ih]

theorem textOf_toNat (s : String) : textOf (s.toList.map Char.toNat) = some s := by
  rw [textOf, ofCodes_toNat, Option.map_some, String.ofList_toList]

/-! ## Escapings -/

theorem escape_of_letterFor? {c letter : Char} (h : letterFor? c = some letter) : Escape letter c := by
  obtain ⟨p, hfind, rfl⟩ := Option.map_eq_some_iff.mp h
  have hmem := List.mem_of_find?_eq_some hfind
  have hc := List.find?_some hfind
  simp only [decide_eq_true_eq] at hc
  subst hc
  simp only [letterEscapes, List.mem_cons, List.not_mem_nil, or_false] at hmem
  rcases hmem with rfl | rfl | rfl | rfl | rfl | rfl | rfl <;> constructor

namespace Escaping

/-- What is written by a letter, by a code, or plain, is what that letter, that code or that character stands for. -/
structure Faithful (e : Escaping) : Prop where
  letter {c letter : Char} (h : e.letter? c = some letter) : Escape letter c
  coded {c : Char} (h : e.isCoded c = true) : c.toNat < 0x10000
  plain {c : Char} (hletter : e.letter? c = none) (hcoded : e.isCoded c = false) :
    0x20 ≤ c.toNat ∧ c ≠ '"' ∧ c ≠ '\\'

variable {e : Escaping}

theorem Faithful.spells_char (h : e.Faithful) (c : Char) {cs : List Char} {codes : List Nat} (hcs : Spells cs codes) :
    Spells (e.char c ++ cs) (c.toNat :: codes) := by
  unfold Escaping.char
  split
  case h_1 letter hletter => exact .letter (h.letter hletter) hcs
  case h_2 hletter =>
    split
    case isTrue hcoded => exact .code (hexNumber?_hex4 (h.coded hcoded)) hcs
    case isFalse hcoded =>
      obtain ⟨hcontrol, hquote, hbackslash⟩ := h.plain hletter (Bool.eq_false_iff.mpr hcoded)
      exact .plain hcontrol hquote hbackslash hcs

/-- What stands between the quotes spells the characters of the text. -/
theorem Faithful.spells (h : e.Faithful) (s : String) : Spells (e.text s) (s.toList.map Char.toNat) := by
  unfold Escaping.text
  induction s.toList with
  | nil => exact .nil
  | cons c cs ih =>
    rw [List.flatMap_cons, List.map_cons]
    exact h.spells_char c ih

/-- A text with its quotes is the string of that text. -/
theorem Faithful.derives (h : e.Faithful) (s : String) : Derives (.value (.string (some s))) (e.quoted s) := by
  have hstring := Derives.string (h.spells s)
  rwa [textOf_toNat] at hstring

end Escaping

end NamedRows.Json
