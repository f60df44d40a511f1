import NamedRows.Proofs.Name.Occurrences

/-!
# Rows that are meant exactly

Which row an occurrence of a name is, is said by the list of names alone (`IsOccurrence`). An address means the row that
is as many rows after such an occurrence as its shift says, in exact integers (`exactRow_eq_ok`), and a position means
the row that it counts from either end (`resolveIndex_eq_ok`). Where there is no such row, an index is out of range;
nothing is moved to the nearest row, and a sum that 64 bits do not hold is no row either.
-/

namespace NamedRows

/-- The row is the occurrence `k` of a name: as many rows with that name come before it as `k` says, a negative `k`
counting from beyond the last of them. -/
structure IsOccurrence (names : List String) (name : String) (k : Int) (row : Nat) : Prop where
  named : names[row]? = some name
  earlier : ((names.take row).count name : Int) = if k < 0 then names.count name + k else k

/-! ## Occurrences -/

section Occurrences

variable {d : Directory} {names : List String}

/-- The row of an occurrence, in terms of the names alone. -/
theorem Directory.Lists.row_eq_ok (h : d.Lists names) {name : String} {occurrence : Option Int64} {row : Nat} :
    d.row name occurrence = .ok row ↔ IsOccurrence names name (occurrence.getD 0).toInt row := by
  have hdefault : d.row name occurrence = d.row name (some (occurrence.getD 0)) := by cases occurrence <;> rfl
  rw [hdefault, h.row_eq_ok_iff]
  simp only [getElem?_rowsNamed_iff]
  constructor
  · rintro ⟨i, hi, hname, rfl⟩
    exact ⟨hname, hi⟩
  · rintro ⟨hname, hcount⟩
    exact ⟨_, hcount, hname, rfl⟩

/-- An occurrence is there if it is one of as many as the name has, counted from either end. -/
theorem exists_isOccurrence_iff {names : List String} {name : String} {k : Int64} :
    (∃ row, IsOccurrence names name k.toInt row) ↔
      1 ≤ names.count name ∧ -(names.count name : Int) ≤ k.toInt ∧ k.toInt < names.count name := by
  have hlists := Directory.ofNames_lists names 0
  have hrow : ∀ row, (Directory.ofNames names 0).row name (some k) = .ok row ↔ IsOccurrence names name k.toInt row :=
    fun row => hlists.row_eq_ok
  rw [← hlists.exists_row_iff]
  exact exists_congr fun row => (hrow row).symm

/-- The row of a name that occurs is an error only if it has no such occurrence. -/
theorem Directory.Lists.family_of_row (h : d.Lists names) {name : String} (hm : name ∈ names)
    {occurrence : Option Int64} {e : Error} (he : d.row name occurrence = .error e) : e.family = .index := by
  unfold Directory.row at he
  rw [h.rowsOf_eq, if_pos hm] at he
  simp only at he
  split at he <;> cases he
  rfl

/-- A name that does not occur has no rows. -/
theorem Directory.Lists.row_undefined (h : d.Lists names) {name : String} (hm : name ∉ names)
    (occurrence : Option Int64) : d.row name occurrence = .error (.undefined name) := by
  unfold Directory.row
  rw [h.rowsOf_eq, if_neg hm]

end Occurrences

/-! ## Addresses -/

section Addresses

variable {d : Directory} {names : List String}

/-- The position of an address is the exact sum of its row and its shift, if 64 bits hold it. -/
theorem position_of_row {name : String} {occurrence : Option Int64} {row : Nat} (hr : d.row name occurrence = .ok row)
    (shift : Int64) :
    d.position name occurrence shift =
      if Text.Numeral.inRange (row + shift.toInt) then .ok (row + shift.toInt)
      else .error (.outOfRange shift.toInt (.shiftFrom name)) := by
  unfold Directory.position shiftRow?
  rw [hr, ok_bind]
  by_cases hp : Text.Numeral.inRange (row + shift.toInt)
  · simp only [if_pos hp]
  · simp only [if_neg hp]

theorem family_of_checkRow {p : Int} {size : Nat} {e : Error} (he : checkRow p size = .error e) :
    e.family = .index := by
  unfold checkRow at he
  split at he <;> cases he
  rfl

/-- The row as far after an occurrence as the shift says is the row that the address means, if it can be counted. -/
theorem exactRow_of_occurrence (h : d.Lists names) {a : Address} {row r size : Nat}
    (hrow : IsOccurrence names a.name (a.occurrence.getD 0).toInt row) (hsum : (row : Int) + a.shift.toInt = r)
    (hr : r < size) (hn : r ≤ maxRows) : exactRow d a size = .ok r := by
  have hzero : (0 : Int64).toInt = 0 := rfl
  have hrange : Text.Numeral.inRange (row + a.shift.toInt) := inRange_of_le 0 (by omega) (by omega)
  unfold exactRow
  rw [position_of_row (h.row_eq_ok.mpr hrow), if_pos hrange, ok_bind]
  exact checkRow_eq_ok.mpr ⟨hsum, hr⟩

/-- The row an address means is the exact sum of its occurrence's row and its shift: a sum beyond 64 bits is no row. -/
theorem exactRow_eq_ok (h : d.Lists names) {a : Address} {r size : Nat} (hsize : size ≤ maxRows) :
    exactRow d a size = .ok r ↔
      ∃ row, IsOccurrence names a.name (a.occurrence.getD 0).toInt row ∧ (row : Int) + a.shift.toInt = r ∧
        r < size := by
  constructor
  · intro hr
    obtain ⟨p, hp, hr⟩ := bind_eq_ok.mp hr
    obtain ⟨row, hrow, -⟩ := bind_eq_ok.mp hp
    rw [position_of_row hrow] at hp
    split at hp <;> cases hp
    exact ⟨row, h.row_eq_ok.mp hrow, checkRow_eq_ok.mp hr⟩
  · rintro ⟨row, hrow, hsum, hr⟩
    exact exactRow_of_occurrence h hrow hsum hr (by omega)

/-- An address whose name occurs fails only where an index is out of range. -/
theorem family_of_exactRow (h : d.Lists names) {a : Address} (hm : a.name ∈ names) {size : Nat} {e : Error}
    (he : exactRow d a size = .error e) : e.family = .index := by
  rcases bind_eq_error.mp he with he | ⟨p, -, he⟩
  · rcases bind_eq_error.mp he with hrow | ⟨row, hrow, -⟩
    · exact h.family_of_row hm hrow
    · rw [position_of_row hrow] at he
      split at he <;> cases he
      rfl
  · exact family_of_checkRow he

/-- An address whose name does not occur says so. -/
theorem exactRow_undefined (h : d.Lists names) {a : Address} (hm : a.name ∉ names) (size : Nat) :
    exactRow d a size = .error (.undefined a.name) := by
  unfold exactRow Directory.position
  rw [h.row_undefined hm]
  rfl

end Addresses

/-! ## Positions -/

/-- A position means the row that it counts from the first one, or from beyond the last one if it is negative. -/
theorem entryIndex_eq_some_iff {i : Int64} {size row : Nat} :
    entryIndex i size = some row ↔ row < size ∧ (i.toInt = row ∨ i.toInt = row - size) := by
  rw [Directory.entryIndex_eq_some]
  omega

theorem resolveIndex_eq_ok {src : Source} {i : Int64} {row : Nat} :
    resolveIndex src {} i = .ok row ↔ row < src.rowCount ∧ (i.toInt = row ∨ i.toInt = row - src.rowCount) := by
  have hsize : Window.size {} src = src.rowCount := rfl
  rw [← entryIndex_eq_some_iff]
  unfold resolveIndex
  rw [hsize]
  cases entryIndex i src.rowCount <;> simp [Window.absolute]

theorem family_of_resolveIndex {src : Source} {w : Window} {i : Int64} {e : Error}
    (he : resolveIndex src w i = .error e) : e.family = .index := by
  unfold resolveIndex at he
  split at he <;> cases he
  rfl

end NamedRows
