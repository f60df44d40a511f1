import NamedRows.Column

/-!
# Gathered rows

What taking rows of a column does to its size and its cells (`size_take`, `cell?_take`), and that taking rows of taken
rows is taking rows once (`take_take`). All of it is about positions that are in range: a position beyond the end gives
nothing, and then the later ones move up.
-/

namespace NamedRows

/-! ## Arrays -/

section Gather

variable {α β γ : Type}

theorem gather_cons {cells : Array α} {row : Nat} (rows : List Nat) (h : row < cells.size) :
    gather cells (row :: rows) = #[cells[row]] ++ gather cells rows := by
  simp [gather, h]

theorem gather_eq_map {cells : Array α} {rows : List Nat} (h : ∀ r ∈ rows, r < cells.size) :
    (gather cells rows).toList.map some = rows.map fun r => cells[r]? := by
  induction rows with
  | nil => rfl
  | cons row rows ih =>
    have hrow := h row List.mem_cons_self
    rw [gather_cons rows hrow, Array.toList_append, List.map_append, ih fun r hr => h r (List.mem_cons_of_mem _ hr)]
    simp [hrow]

theorem size_gather {cells : Array α} {rows : List Nat} (h : ∀ r ∈ rows, r < cells.size) :
    (gather cells rows).size = rows.length := by
  have := congrArg List.length (gather_eq_map h)
  simpa using this

/-- The entry of gathered rows at a place is the entry of the row that stands there. -/
theorem getElem?_gather {cells : Array α} {rows : List Nat} (h : ∀ r ∈ rows, r < cells.size) (i : Nat) :
    (gather cells rows)[i]? = rows[i]?.bind fun r => cells[r]? := by
  have hi := congrArg (fun l => l[i]?) (gather_eq_map h)
  simp only [List.getElem?_map, Array.getElem?_toList] at hi
  cases hg : (gather cells rows)[i]? with
  | none =>
    rw [hg] at hi
    cases hr : rows[i]? with
    | none => rfl
    | some r => rw [hr] at hi; cases hi
  | some a =>
    rw [hg] at hi
    cases hr : rows[i]? with
    | none => rw [hr] at hi; cases hi
    | some r => rw [hr] at hi; simpa using hi

theorem gather_map (f : α → β) (cells : Array α) (rows : List Nat) :
    gather (cells.map f) rows = (gather cells rows).map f := by
  simp [gather, List.map_filterMap]

/-- Combining row by row and then gathering is gathering on both sides and then combining. -/
theorem gather_zipWith (f : α → β → γ) {as : Array α} {bs : Array β} (h : as.size = bs.size) {rows : List Nat}
    (hr : ∀ r ∈ rows, r < as.size) :
    gather (Array.zipWith f as bs) rows = Array.zipWith f (gather as rows) (gather bs rows) := by
  have hb : ∀ r ∈ rows, r < bs.size := fun r hm => h ▸ hr r hm
  have hz : ∀ r ∈ rows, r < (Array.zipWith f as bs).size := fun r hm => by
    rw [Array.size_zipWith]; exact Nat.lt_min.mpr ⟨hr r hm, hb r hm⟩
  apply Array.ext_getElem?
  intro i
  rw [getElem?_gather hz, Array.getElem?_zipWith, getElem?_gather hr, getElem?_gather hb]
  cases hi : rows[i]? with
  | none => rfl
  | some r =>
    have hm := List.mem_of_getElem? hi
    simp [Array.getElem?_zipWith, hr r hm, hb r hm]

/-- Gathering twice is gathering once at the rows of the rows. -/
theorem gather_gather {cells : Array α} {ps qs : List Nat} (hp : ∀ p ∈ ps, p < cells.size)
    (hq : ∀ q ∈ qs, q < ps.length) :
    gather (gather cells ps) qs = gather cells (qs.map fun q => ps[q]?.getD 0) := by
  have hq' : ∀ q ∈ qs, q < (gather cells ps).size := fun q hm => by rw [size_gather hp]; exact hq q hm
  have hc : ∀ r ∈ qs.map (fun q => ps[q]?.getD 0), r < cells.size := by
    intro r hm
    obtain ⟨q, hqm, rfl⟩ := List.mem_map.mp hm
    have := hq q hqm
    simpa [this] using hp ps[q] (List.getElem_mem this)
  apply Array.ext_getElem?
  intro i
  rw [getElem?_gather hq', getElem?_gather hc, List.getElem?_map]
  cases hi : qs[i]? with
  | none => rfl
  | some q =>
    have := hq q (List.mem_of_getElem? hi)
    simp [getElem?_gather hp, this]

theorem gather_range (cells : Array α) : gather cells (List.range cells.size) = cells := by
  have h : ∀ r ∈ List.range cells.size, r < cells.size := fun r hr => List.mem_range.mp hr
  apply Array.ext_getElem?
  intro i
  rw [getElem?_gather h]
  by_cases hi : i < cells.size
  · simp [hi]
  · simp [Nat.le_of_not_lt hi]

end Gather

/-! ## Columns -/

namespace Column

variable {c : Column} {rows : List Nat}

theorem size_take (h : ∀ r ∈ rows, r < c.size) : (c.take rows).size = rows.length := by
  cases c <;> exact size_gather h

theorem cell?_take (h : ∀ r ∈ rows, r < c.size) (i : Nat) :
    (c.take rows).cell? i = rows[i]?.bind c.cell? := by
  cases c <;> simp only [take, cell?, getElem?_gather h] <;> cases rows[i]? <;> rfl

theorem take_take {ps qs : List Nat} (hp : ∀ p ∈ ps, p < c.size) (hq : ∀ q ∈ qs, q < ps.length) :
    (c.take ps).take qs = c.take (qs.map fun q => ps[q]?.getD 0) := by
  cases c <;> simp only [take] <;> rw [gather_gather hp hq]

/-- Taking every row in order changes nothing. -/
theorem take_range (c : Column) : c.take (List.range c.size) = c := by
  cases c <;> simp only [take, size, gather_range]

/-- Every row of a column has a cell. -/
theorem exists_cell? {row : Nat} (h : row < c.size) : ∃ x, c.cell? row = some x := by
  rw [← Option.isSome_iff_exists]
  cases c <;> simpa [cell?, size] using h

/-- Filling keeps the size. -/
theorem size_fill {filled : Column} {value : Cell} (h : c.fill value = .ok filled) : filled.size = c.size := by
  cases c <;> cases value <;> simp only [fill, reduceCtorEq, Except.ok.injEq] at h <;> subst h <;> simp [size]

end Column

end NamedRows
