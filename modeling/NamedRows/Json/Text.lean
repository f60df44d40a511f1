import NamedRows.Text.Hex

/-!
# Strings of JSON documents

How a text stands between double quotes (`Escaping`, `quoted`) and how it is read from there (`readCodes`, `ofCodes`).
What is read is a list of codes, one for a plain character and one for an escape. Two escapes that are the halves of one
character count as that character; half a character alone has no text.
-/

namespace NamedRows.Json

/-- The four lower-case hexadecimal digits of a code below `2 ^ 16`. -/
def hex4 (n : Nat) : List Char :=
  [n / 4096 % 16, n / 256 % 16, n / 16 % 16, n % 16].map Nat.digitChar

/-- Which characters are written as a backslash with a letter, and which by their code. -/
structure Escaping where
  letter? : Char → Option Char
  isCoded : Char → Bool

/-- The letters after a backslash that stand for a character each; the two marks stand for themselves. -/
def letterEscapes : List (Char × Char) :=
  [('"', '"'), ('\\', '\\'), ('\x08', 'b'), ('\x0c', 'f'), ('\n', 'n'), ('\r', 'r'), ('\t', 't')]

/-- The letter for a character. -/
def letterFor? (c : Char) : Option Char := (letterEscapes.find? fun p => p.1 = c).map Prod.snd

/-- The character for a letter; a slash may be escaped too. -/
def charFor? (letter : Char) : Option Char :=
  if letter = '/' then some '/' else (letterEscapes.find? fun p => p.2 = letter).map Prod.fst

namespace Escaping

/-- One character between the quotes. -/
def char (e : Escaping) (c : Char) : List Char :=
  match e.letter? c with
  | some letter => ['\\', letter]
  | none => if e.isCoded c then '\\' :: 'u' :: hex4 c.toNat else [c]

/-- A text between the quotes. -/
def text (e : Escaping) (s : String) : List Char := s.toList.flatMap e.char

/-- A text with its quotes. -/
def quoted (e : Escaping) (s : String) : List Char := '"' :: e.text s ++ ['"']

end Escaping

/-- The escapes a document needs, and no others: letters where there are some, codes for the other controls. -/
def leastEscaping : Escaping := ⟨letterFor?, fun c => c.toNat < 0x20⟩

/-- What comes after an opening quote: the codes up to the closing quote, and the rest. A control has to be escaped. -/
def readCodes : List Char → Option (List Nat × List Char)
  | [] => none
  | '"' :: rest => some ([], rest)
  | '\\' :: 'u' :: a :: b :: c :: d :: rest => do
    let n ← Text.hexNumber? [a, b, c, d]
    let (codes, after) ← readCodes rest
    return (n :: codes, after)
  | '\\' :: letter :: rest => do
    let c ← charFor? letter
    let (codes, after) ← readCodes rest
    return (c.toNat :: codes, after)
  | c :: rest => do
    let (codes, after) ← readCodes rest
    if c.toNat < 0x20 then none else return (c.toNat :: codes, after)

/-- The first and the second halves of the characters beyond `2 ^ 16`. -/
def isHighHalf (n : Nat) : Bool := 0xD800 ≤ n && n < 0xDC00

def isLowHalf (n : Nat) : Bool := 0xDC00 ≤ n && n < 0xE000

/-- The characters that codes stand for; half a character alone has none. -/
def ofCodes : List Nat → Option (List Char)
  | [] => some []
  | n :: rest =>
    if isHighHalf n then
      match rest with
      | m :: rest =>
        if isLowHalf m then (ofCodes rest).map (Char.ofNat (0x10000 + (n - 0xD800) * 0x400 + (m - 0xDC00)) :: ·)
        else none
      | [] => none
    else if isLowHalf n then none
    else (ofCodes rest).map (Char.ofNat n :: ·)

/-- Reading a string leaves less than there was. -/
theorem length_of_readCodes {cs : List Char} {codes : List Nat} {rest : List Char}
    (h : readCodes cs = some (codes, rest)) : rest.length < cs.length := by
  fun_induction readCodes cs generalizing codes rest with
  | case1 => simp at h
  | case2 r => simp_all
  | case3 a b c d r ih =>
    simp only [Option.bind_eq_bind, Option.bind_eq_some_iff] at h
    obtain ⟨n, -, ⟨codes', after⟩, hr, he⟩ := h
    have := ih hr
    simp only [Option.pure_def, Option.some.injEq, Prod.mk.injEq] at he
    obtain ⟨-, rfl⟩ := he
    simp only [List.length_cons]
    omega
  | case4 l r _ ih =>
    simp only [Option.bind_eq_bind, Option.bind_eq_some_iff] at h
    obtain ⟨n, -, ⟨codes', after⟩, hr, he⟩ := h
    have := ih hr
    simp only [Option.pure_def, Option.some.injEq, Prod.mk.injEq] at he
    obtain ⟨-, rfl⟩ := he
    simp only [List.length_cons]
    omega
  | case5 c r _ _ _ ih =>
    simp only [Option.bind_eq_bind, Option.bind_eq_some_iff] at h
    obtain ⟨⟨codes', after⟩, hr, he⟩ := h
    have := ih hr
    split at he
    · simp at he
    · simp only [Option.pure_def, Option.some.injEq, Prod.mk.injEq] at he
      obtain ⟨-, rfl⟩ := he
      simp only [List.length_cons]
      omega

end NamedRows.Json
