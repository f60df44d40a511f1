import NamedRows.Column

/-!
# Stored columns

Columns are kept in buffers of a store, and handles tell which (`Store`, `Handle`). Several handles may stand for one
buffer; what is read through them is then the same column. A new buffer differs from all earlier ones
(`Store.read_hold_self`, `Store.read_hold_of_lt`), and overwriting one leaves the others as they are
(`Store.read_overwrite_self`, `Store.read_overwrite_of_ne`).
-/

namespace NamedRows

/-- The place of a column in a store. -/
structure Handle where
  index : Nat
  deriving DecidableEq, Repr

/-- Buffers with a column each. -/
structure Store where
  buffers : Array Column := #[]

namespace Store

/-- The number of buffers. -/
def size (s : Store) : Nat := s.buffers.size

/-- The column in a buffer. -/
def read (s : Store) (h : Handle) : Column := s.buffers[h.index]?.getD (.float #[])

/-- Puts a column into a new buffer. -/
def hold (s : Store) (column : Column) : Store × Handle := (⟨s.buffers.push column⟩, ⟨s.size⟩)

/-- Puts a column into a buffer in place of what was there. -/
def overwrite (s : Store) (h : Handle) (column : Column) : Store := ⟨s.buffers.setIfInBounds h.index column⟩

@[simp] theorem size_hold (s : Store) (c : Column) : (s.hold c).1.size = s.size + 1 := by simp [hold, size]

@[simp] theorem size_overwrite (s : Store) (h : Handle) (c : Column) : (s.overwrite h c).size = s.size := by
  simp [overwrite, size]

theorem lt_hold (s : Store) (c : Column) : (s.hold c).2.index < (s.hold c).1.size := by simp [hold, size]

theorem read_hold_self (s : Store) (c : Column) : (s.hold c).1.read (s.hold c).2 = c := by simp [hold, read, size]

theorem read_hold_of_lt {s : Store} {h : Handle} (c : Column) (hlt : h.index < s.size) :
    (s.hold c).1.read h = s.read h := by
  simp only [size] at hlt
  simp [hold, read, Array.getElem?_push, Nat.ne_of_lt hlt]

theorem read_overwrite_self {s : Store} {h : Handle} (c : Column) (hlt : h.index < s.size) :
    (s.overwrite h c).read h = c := by
  simp only [size] at hlt
  simp [overwrite, read, hlt]

theorem read_overwrite_of_ne {s : Store} {h g : Handle} (c : Column) (hne : g ≠ h) :
    (s.overwrite h c).read g = s.read g := by
  have : h.index ≠ g.index := fun e => hne (by cases g; cases h; simp_all)
  simp [overwrite, read, this]

end Store

end NamedRows
