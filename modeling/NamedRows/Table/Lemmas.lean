import NamedRows.Table.Basic

/-!
# Tables and what their columns stand for

Replacing the columns of a table by others (`Table.map`) changes neither names nor order, and it commutes with every
change of the table (`Table.map_apply`). So a table of handles and the table of cells behind it change alike.
-/

namespace NamedRows.Table

variable {κ μ : Type}

@[simp] theorem names_map (f : κ → μ) (t : Table κ) : (t.map f).names = t.names := by
  simp [names, map, Function.comp_def]

@[simp] theorem isKey_map (f : κ → μ) (t : Table κ) (name : String) : (t.map f).isKey name = t.isKey name := rfl

theorem lookup_map (f : κ → μ) (columns : List (String × κ)) (name : String) :
    (columns.map fun p => (p.1, f p.2)).lookup name = (columns.lookup name).map f := by
  induction columns with
  | nil => rfl
  | cons p rest ih =>
    obtain ⟨n, column⟩ := p
    simp only [List.map_cons, List.lookup_cons, ih]
    cases name == n <;> rfl

@[simp] theorem column?_map (f : κ → μ) (t : Table κ) (name : String) :
    (t.map f).column? name = (t.column? name).map f :=
  lookup_map f t.columns name

theorem map_stamp (f : κ → μ) (t : Table κ) (name : String) : (t.stamp name).map f = (t.map f).stamp name := by
  unfold stamp
  rw [isKey_map]
  by_cases h : t.isKey name = true
  · rw [if_pos h, if_pos h]; rfl
  · rw [if_neg h, if_neg h]

theorem placed_map (f : κ → μ) (columns : List (String × κ)) (name : String) (column : κ) :
    (placed columns name column).map (fun p => (p.1, f p.2)) =
      placed (columns.map fun p => (p.1, f p.2)) name (f column) := by
  have hn : (columns.map fun p => (p.1, f p.2)).map Prod.fst = columns.map Prod.fst := by simp [Function.comp_def]
  unfold placed
  rw [hn]
  split
  · rw [List.map_map, List.map_map]
    refine List.map_congr_left fun p _ => ?_
    simp only [Function.comp_apply]
    split <;> rfl
  · simp

/-- A change of a table is the same change of what its columns stand for. -/
theorem map_apply (f : κ → μ) (t : Table κ) (c : Change κ) : (t.apply c).map f = (t.map f).apply (c.map f) := by
  cases c with
  | keep => rfl
  | cache d => rfl
  | touch name => exact map_stamp f t name
  | put name column =>
    refine (map_stamp f _ name).trans ?_
    simp only [apply, Change.map, map, placed_map]
  | remove name =>
    refine (map_stamp f _ name).trans ?_
    simp only [apply, Change.map, map, List.filter_map, Function.comp_def]
  | order names =>
    simp only [apply, Change.map, map, column?, lookup_map, List.map_filterMap, Option.map_map, Function.comp_def]

end NamedRows.Table
