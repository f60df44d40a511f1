import NamedRows.Proofs.Table.Columns
import NamedRows.Session.Run
import NamedRows.Table.Lemmas

/-!
# Handles and buffers of a session

What steps do to buffers. New buffers disturb nothing that is there (`Grows`), and columns that are put into them are
read back (`holdAll_grows`, `holdTable_grows`). Overwriting a buffer would disturb its other uses, but a buffer is
overwritten only for a single use (`read_overwrite`); two tables, two columns of a table, or a table and a kept column
that have one handle make two uses of it (`two_le_count_tables`, `two_le_count_columns`, `two_le_count_kept`).
-/

namespace NamedRows

/-- The handles a table holds. -/
def Table.handles (t : Table Handle) : List Handle := t.columns.map Prod.snd

/-! ## Tables of handles -/

namespace Table

theorem map_map {κ μ ν : Type} (f : κ → μ) (g : μ → ν) (t : Table κ) : (t.map f).map g = t.map (g ∘ f) := by
  simp [map, Function.comp_def]

theorem map_congr {κ μ : Type} {f g : κ → μ} {t : Table κ} (h : ∀ c ∈ t.columns.map Prod.snd, f c = g c) :
    t.map f = t.map g := by
  have hcolumns : (t.columns.map fun p => (p.1, f p.2)) = t.columns.map fun p => (p.1, g p.2) :=
    List.map_congr_left fun p hp => by rw [h p.2 (List.mem_map_of_mem hp)]
  simp only [map, hcolumns]

theorem mem_handles_of_column {t : Table Handle} {name : String} {h : Handle} (hc : t.column? name = some h) :
    h ∈ t.handles :=
  List.mem_map_of_mem (f := Prod.snd) (mem_of_lookup hc)

/-- A change brings in no handle but the one it puts. -/
theorem mem_handles_apply {t : Table Handle} {c : Change Handle} {h : Handle} (hm : h ∈ (t.apply c).handles) :
    h ∈ t.handles ∨ ∃ name, c = .put name h := by
  obtain ⟨p, hp, rfl⟩ := List.mem_map.mp hm
  cases c with
  | keep => exact .inl (List.mem_map_of_mem hp)
  | cache d => exact .inl (List.mem_map_of_mem hp)
  | touch name =>
    rw [apply, columns_stamp] at hp
    exact .inl (List.mem_map_of_mem hp)
  | put name g =>
    rw [apply, columns_stamp] at hp
    rcases mem_placed hp with rfl | ⟨hp, -⟩
    · exact .inr ⟨name, rfl⟩
    · exact .inl (List.mem_map_of_mem hp)
  | remove name =>
    rw [apply, columns_stamp] at hp
    exact .inl (List.mem_map_of_mem (List.mem_filter.mp hp).1)
  | order names => exact .inl (List.mem_map_of_mem (mem_of_mem_filterMap_names hp).2)

end Table

/-! ## Uses of a handle -/

/-- What two entries of a list both have occurs at least twice. -/
theorem two_le_count_flatMap {α β : Type} [DecidableEq β] {l : List α} {f : α → List β} {x y : α} {b : β} (hx : x ∈ l)
    (hy : y ∈ l) (hne : x ≠ y) (hbx : b ∈ f x) (hby : b ∈ f y) : 2 ≤ (l.flatMap f).count b := by
  induction l with
  | nil => cases hx
  | cons z l ih =>
    rw [List.flatMap_cons, List.count_append]
    rcases List.mem_cons.mp hx with rfl | hxl <;> rcases List.mem_cons.mp hy with rfl | hyl
    · exact absurd rfl hne
    · have h₁ := List.count_pos_iff.mpr hbx
      have h₂ := List.count_pos_iff.mpr (List.mem_flatMap.mpr ⟨y, hyl, hby⟩)
      omega
    · have h₁ := List.count_pos_iff.mpr hby
      have h₂ := List.count_pos_iff.mpr (List.mem_flatMap.mpr ⟨x, hxl, hbx⟩)
      omega
    · have := ih hxl hyl
      omega

/-- A handle that two entries of a list both have occurs at least twice. -/
theorem two_le_count_map {l : List (String × Handle)} {q r : String × Handle} (hq : q ∈ l) (hr : r ∈ l) (hne : q ≠ r)
    (hqr : q.2 = r.2) : 2 ≤ (l.map Prod.snd).count r.2 := by
  rw [List.map_eq_flatMap]
  exact two_le_count_flatMap (f := fun q : String × Handle => [q.2]) hq hr hne (List.mem_singleton.mpr hqr.symm)
    (List.mem_singleton.mpr rfl)

namespace Session

variable {s : Session} {h g : Handle}

theorem count_handles (s : Session) (h : Handle) :
    s.handles.count h = (s.tables.flatMap fun p => p.2.handles).count h + (s.kept.map Prod.snd).count h :=
  List.count_append

/-- A handle of two tables is used twice. -/
theorem two_le_count_tables {p q : String × Table Handle} (hp : p ∈ s.tables) (hq : q ∈ s.tables) (hne : p ≠ q)
    (hgp : g ∈ p.2.handles) (hgq : g ∈ q.2.handles) : 2 ≤ s.handles.count g := by
  have := two_le_count_flatMap (f := fun p : String × Table Handle => p.2.handles) hp hq hne hgp hgq
  rw [count_handles]
  omega

/-- A handle of two columns of one table is used twice. -/
theorem two_le_count_columns {p : String × Table Handle} {q r : String × Handle} (hp : p ∈ s.tables)
    (hq : q ∈ p.2.columns) (hr : r ∈ p.2.columns) (hne : q ≠ r) (hqr : q.2 = r.2) : 2 ≤ s.handles.count r.2 := by
  have htwo := two_le_count_map hq hr hne hqr
  have hle : (p.2.columns.map Prod.snd).count r.2 ≤ (s.tables.flatMap fun p => p.2.handles).count r.2 := by
    rw [List.flatMap_def]
    exact (List.sublist_flatten_of_mem (List.mem_map_of_mem (f := fun p => p.2.handles) hp)).count_le r.2
  rw [count_handles]
  omega

/-- A handle of a table and of a kept column is used twice. -/
theorem two_le_count_kept {p : String × Table Handle} {q : String × Handle} (hp : p ∈ s.tables) (hq : q ∈ s.kept)
    (hqp : q.2 ∈ p.2.handles) : 2 ≤ s.handles.count q.2 := by
  have htables : q.2 ∈ s.tables.flatMap fun p => p.2.handles := List.mem_flatMap.mpr ⟨p, hp, hqp⟩
  have h₁ := List.count_pos_iff.mpr htables
  have h₂ := List.count_pos_iff.mpr (List.mem_map_of_mem (f := Prod.snd) hq)
  rw [count_handles]
  omega

/-! ## Buffers that change -/

/-- Tables and columns have the handles they had, and no buffer is gone. -/
structure Extends (s s' : Session) : Prop where
  tables_eq : s'.tables = s.tables
  kept_eq : s'.kept = s.kept
  size_le : s.store.size ≤ s'.store.size

/-- There may be new buffers, and everything else is as it was. -/
structure Grows (s s' : Session) : Prop extends Extends s s' where
  read_eq : ∀ h : Handle, h.index < s.store.size → s'.store.read h = s.store.read h

theorem Grows.refl (s : Session) : Grows s s := ⟨⟨rfl, rfl, Nat.le_refl _⟩, fun _ _ => rfl⟩

theorem Grows.trans {s₁ s₂ s₃ : Session} (h : Grows s₁ s₂) (h' : Grows s₂ s₃) : Grows s₁ s₃ where
  tables_eq := h'.tables_eq.trans h.tables_eq
  kept_eq := h'.kept_eq.trans h.kept_eq
  size_le := Nat.le_trans h.size_le h'.size_le
  read_eq g hg := (h'.read_eq g (Nat.lt_of_lt_of_le hg h.size_le)).trans (h.read_eq g hg)

theorem hold_grows (s : Session) (column : Column) : Grows s (s.hold column).1 :=
  ⟨⟨rfl, rfl, by simp [hold]⟩, fun _ hg => Store.read_hold_of_lt column hg⟩

theorem lt_hold (s : Session) (column : Column) : (s.hold column).2.index < (s.hold column).1.store.size :=
  Store.lt_hold s.store column

/-- Columns that are put into new buffers are read back from them. -/
theorem holdAll_grows (s : Session) (columns : List (String × Column)) :
    Grows s (s.holdAll columns).1 ∧
      (∀ p ∈ (s.holdAll columns).2, p.2.index < (s.holdAll columns).1.store.size) ∧
      ((s.holdAll columns).2.map fun p => (p.1, (s.holdAll columns).1.store.read p.2)) = columns := by
  induction columns generalizing s with
  | nil => exact ⟨.refl s, List.forall_mem_nil _, rfl⟩
  | cons p rest ih =>
    obtain ⟨name, column⟩ := p
    obtain ⟨hgrows, hlt, hread⟩ := ih (s.hold column).1
    have hnew := lt_hold s column
    simp only [holdAll, List.map_cons, List.forall_mem_cons]
    refine ⟨(hold_grows s column).trans hgrows, ⟨Nat.lt_of_lt_of_le hnew hgrows.size_le, hlt⟩, ?_⟩
    rw [hread, hgrows.read_eq _ hnew]
    simp only [hold, Store.read_hold_self]

/-- A table that is put into new buffers is read back from them. -/
theorem holdTable_grows (s : Session) (cells : Table Column) :
    Grows s (s.holdTable cells).1 ∧ (s.holdTable cells).1.view (s.holdTable cells).2 = cells ∧
      ∀ h ∈ (s.holdTable cells).2.handles, h.index < (s.holdTable cells).1.store.size := by
  obtain ⟨hgrows, hlt, hread⟩ := holdAll_grows s cells.columns
  refine ⟨hgrows, ?_, fun h hm => ?_⟩
  · simp only [holdTable, view, Table.map, hread]
  · obtain ⟨p, hp, rfl⟩ := List.mem_map.mp hm
    exact hlt p hp

theorem overwrite_extends (s : Session) (h : Handle) (column : Column) : Extends s (s.overwrite h column).1 := by
  unfold overwrite
  split
  · exact ⟨rfl, rfl, by simp⟩
  · exact (hold_grows s column).toExtends

/-- The new contents are read back from the handle that overwriting returns. -/
theorem overwrite_written (hh : h.index < s.store.size) (column : Column) :
    (s.overwrite h column).2.index < (s.overwrite h column).1.store.size ∧
      (s.overwrite h column).1.store.read (s.overwrite h column).2 = column := by
  unfold overwrite
  split
  · exact ⟨by simpa using hh, Store.read_overwrite_self column hh⟩
  · exact ⟨lt_hold s column, Store.read_hold_self s.store column⟩

/-- Overwriting leaves every other use of a buffer alone: a handle that is used twice gets a buffer of its own. -/
theorem read_overwrite (hg : g.index < s.store.size) (hne : g = h → 2 ≤ s.handles.count h) (column : Column) :
    (s.overwrite h column).1.store.read g = s.store.read g := by
  unfold overwrite
  split
  · rename_i hcount
    exact Store.read_overwrite_of_ne column fun e => absurd (hne e) (by omega)
  · exact (hold_grows s column).read_eq g hg

/-! ## Where a column is put -/

/-- The handle whose buffer an operation overwrites when it puts a column. -/
def target? (t : Table Handle) (name : String) : Operation → Option Handle
  | .write (.broadcast _ _) | .write (.fill _ _) => t.column? name
  | _ => none

theorem column_of_target {t : Table Handle} {name : String} {op : Operation} (h : target? t name op = some g) :
    t.column? name = some g := by
  unfold target? at h
  split at h
  · exact h
  · exact h
  · cases h

/-- Writes to the buffer of a handle, or to a new one. -/
def write (s : Session) (target : Option Handle) (column : Column) : Session × Handle :=
  match target with
  | some h => s.overwrite h column
  | none => s.hold column

theorem write_extends (s : Session) (target : Option Handle) (column : Column) :
    Extends s (s.write target column).1 := by
  cases target with
  | some h => exact overwrite_extends s h column
  | none => exact (hold_grows s column).toExtends

theorem settle_put (s : Session) (t : Table Handle) (op : Operation) (name : String) (column : Column) :
    s.settle t op (.put name column) =
      ((s.write (target? t name op) column).1, .put name (s.write (target? t name op) column).2) := by
  cases op with
  | query q => rfl
  | write w =>
    cases w with
    | broadcast _ _ | fill _ _ => cases hc : t.column? name <;> simp only [settle, target?, hc, write]
    | _ => rfl

end Session

end NamedRows
