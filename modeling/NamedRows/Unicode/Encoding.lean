import NamedRows.Unicode.RangeTable

/-!
# Encoded characters

The bytes that characters are encoded by in UTF-8. A set of characters is split into ranges of bytes, one range for
each place of an encoding (`byteSequences`): the encodings of the members are exactly the choices of one byte from each
range of one of the sequences.
-/

namespace NamedRows.Unicode

/-- The bytes from the first to the second, both included. -/
abbrev ByteRange := Nat × Nat

/-- The number of values that `n` bytes after the first one tell apart. -/
def tailValues : Nat → Nat
  | 0 => 1
  | n + 1 => 64 * tailValues n

/-- The numbers from `lo` to `hi` as ranges of digits: a leading one, and `n` digits below 64. A block that is only met
at its start or end is split further, and the whole blocks between are one range. -/
def digitRanges : Nat → Nat → Nat → List (List ByteRange)
  | 0, lo, hi => [[(lo, hi)]]
  | n + 1, lo, hi =>
    let block := tailValues (n + 1)
    let first := lo / block
    let last := hi / block
    if first = last then (digitRanges n (lo % block) (hi % block)).map ((first, first) :: ·)
    else
      let fromStart := lo % block = 0
      let toEnd := hi % block + 1 = block
      let head := if fromStart then [] else (digitRanges n (lo % block) (block - 1)).map ((first, first) :: ·)
      let tail := if toEnd then [] else (digitRanges n 0 (hi % block)).map ((last, last) :: ·)
      let lo' := if fromStart then first else first + 1
      let hi' := if toEnd then last + 1 else last
      let middle := if lo' < hi' then [(lo', hi' - 1) :: List.replicate (n + 1) (0, 63)] else []
      head ++ middle ++ tail

/-- The lengths of encodings after their first byte, with the first and last code encoded so and the mark in the first
byte. -/
def encodingLengths : List (Nat × (Nat × Nat) × Nat) :=
  [(0, (0, 0x7F), 0), (1, (0x80, 0x7FF), 0xC0), (2, (0x800, 0xFFFF), 0xE0), (3, (0x10000, 0x10FFFF), 0xF0)]

/-- A sequence of digits as bytes: the mark goes into the first, and the others start with one bit. -/
def markBytes (mark : Nat) : List ByteRange → List ByteRange
  | [] => []
  | (lo, hi) :: rest => (mark + lo, mark + hi) :: rest.map fun (a, b) => (0x80 + a, 0x80 + b)

/-- The encodings of the characters with codes from `lo` to `hi`. -/
def rangeSequences (lo hi : Nat) : List (List ByteRange) :=
  encodingLengths.flatMap fun (n, (least, most), mark) =>
    if max lo least ≤ min hi most then (digitRanges n (max lo least) (min hi most)).map (markBytes mark) else []

/-- The encodings of the characters of a set, in the order of the characters. -/
def byteSequences (t : RangeTable) : List (List ByteRange) :=
  t.ranges.flatMap fun (lo, hi) => rangeSequences lo hi

/-- The bytes of a character. -/
def utf8 (c : Char) : List Nat := (String.utf8EncodeChar c).map UInt8.toNat

end NamedRows.Unicode
