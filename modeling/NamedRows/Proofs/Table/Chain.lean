import NamedRows.Proofs.Row.Narrowed
import NamedRows.Proofs.Table.WellFormed
import NamedRows.Table.Lemmas
import NamedRows.Externals.Standard

/-!
# A stage of a chain is a selection in the table of the rows before it

The rows of a table that a selector means are a table again, and its source is narrowed to those rows
(`takeRows_narrowed`). Taking rows of it is taking rows of the whole table (`takeRows_takeRows`), and taking all of them
changes nothing (`rows_all`). So selecting in it is what the next stage of a chain does (`rows_chain`).
-/

namespace NamedRows.Table

variable {t : Table Column} {ps : List Nat}

theorem column?_takeRows (t : Table Column) (ps : List Nat) (name : String) :
    (t.takeRows ps).column? name = (t.column? name).map fun c => c.take ps :=
  lookup_map (fun c : Column => c.take ps) t.columns name

theorem rowCount_takeRows (h : t.WellFormed) (hp : ∀ p ∈ ps, p < t.rowCount) :
    (t.takeRows ps).rowCount = ps.length := by
  by_cases hne : t.columns = []
  · -- without columns there are no rows to take
    have hps : ps = [] := List.eq_nil_iff_forall_not_mem.mpr fun p hm => by
      have hlt := hp p hm
      simp only [rowCount, hne] at hlt
      omega
    simp [rowCount, takeRows, derived, hne, hps]
  · refine rowCount_eq (fun p hm => ?_) (by simpa [takeRows, derived] using hne)
    obtain ⟨q, hq, rfl⟩ := List.mem_map.mp hm
    exact Column.size_take fun r hr => (h.size_eq q hq).symm ▸ hp r hr

/-- The table of some rows of a table is a narrowed source. -/
theorem takeRows_narrowed (h : t.WellFormed) (hp : ∀ p ∈ ps, p < t.rowCount) :
    t.source.Narrowed ps (t.takeRows ps).source where
  rowCount_eq := rowCount_takeRows h hp
  key_eq := rfl
  overrun_eq := rfl
  column?_eq := column?_takeRows t ps
  directory_eq := by
    show (t.takeRows ps).directory = _
    simp only [directory, takeRows, derived, Window.directory, source]
    rw [show (Table.column? ⟨_, t.config, 0, none⟩ t.config.key) = _ from column?_takeRows t ps t.config.key]
    cases t.column? t.config.key <;> rfl
  lt_size name c hc p hm := by
    rw [h.size_column hc]
    exact hp p hm

/-- Taking rows of taken rows is taking rows once. -/
theorem takeRows_takeRows (h : t.WellFormed) (hp : ∀ p ∈ ps, p < t.rowCount) {qs : List Nat}
    (hq : ∀ q ∈ qs, q < ps.length) :
    (t.takeRows ps).takeRows qs = t.takeRows (qs.map (Window.absolute ⟨some ps⟩)) := by
  simp only [takeRows, derived, List.map_map]
  congr 1
  refine List.map_congr_left fun p hm => ?_
  have hps : ∀ r ∈ ps, r < p.2.size := fun r hr => (h.size_eq p hm).symm ▸ hp r hr
  exact congrArg (Prod.mk p.1) (Column.take_take hps hq)

/-- All rows of a table are its columns as they are. -/
theorem rows_all [Externals] (h : t.WellFormed) : t.rows .all = .ok (t.derived t.columns) := by
  show Except.ok (t.derived _) = .ok _
  congr 2
  refine (List.map_congr_left fun p hp => ?_).trans (List.map_id t.columns)
  show (p.1, p.2.take (List.range t.rowCount)) = p
  rw [← h.size_eq p hp, Column.take_range]

/-- A second stage without masks selects what it selects in the table of the rows that the first stage selected, or
fails as it fails there. Its names, occurrences, ends and values are all those of that table. -/
theorem rows_chain [Externals] (h : Reachable t) (a : Selector) {b : Selector} (hb : b.maskFree = true) :
    t.rows (.chain [a, b]) = t.rows a >>= fun s => s.rows b := by
  have hwf := h.wellFormed
  show ((resolve t.source false {} a >>= fun s => resolve t.source false ⟨some s.positions⟩ b) >>= _) =
    ((resolve t.source false {} a >>= _) >>= _)
  rw [bind_assoc, bind_assoc]
  refine bind_congr_ok fun s hs => ?_
  have hp : ∀ p ∈ s.positions, p < t.rowCount := (select_inRange hs).lt
  have hn := takeRows_narrowed hwf hp
  show (resolve t.source false (Window.within {} s.positions) b >>= _) = _
  rw [resolve_within hn b hb (inRange_whole _), bind_map]
  refine bind_congr_ok fun s' hs' => ?_
  have hq : ∀ q ∈ s'.positions, q < s.positions.length := hn.rowCount_eq ▸ (select_inRange hs').lt
  show Except.ok _ = Except.ok _
  rw [Selection.positions_map, takeRows_takeRows hwf hp hq]

/-- Backwards, the second `ip2` is the one that stands first in the table. -/
theorem rows_chain_lattice :
    lattice.rows (.chain [.slice none none (some (-1)), .name "ip2::1"]) = .ok (lattice.takeRows [1]) ∧
      (lattice.rows (.slice none none (some (-1))) >>= fun s => s.rows (.name "ip2::1")) =
        .ok (lattice.takeRows [1]) := by
  have h := rows_chain lattice_reachable (.slice none none (some (-1))) (b := .name "ip2::1") rfl
  have hr : lattice.rows (.chain [.slice none none (some (-1)), .name "ip2::1"]) = .ok (lattice.takeRows [1]) := rfl
  exact ⟨hr, h ▸ hr⟩

end NamedRows.Table
