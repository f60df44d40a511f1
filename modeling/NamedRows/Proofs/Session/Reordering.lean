import NamedRows.Proofs.Session.Views
import NamedRows.Proofs.Table.Reordering

/-!
# Columns in another order

In a session an order of columns moves the handles of a table and touches no buffer: every place stays in the buffer it
was in (`Session.reorder_stays`), and the table that is held afterwards is the table of cells in its new order
(`Session.view_reorder`). Together with what is known of the cells, reordering is exactly a permutation
(`Table.reorder_permutes`).
-/

namespace NamedRows

open scoped List

/-! ## Handles -/

namespace Session

variable {s : Session} {on : String} {t : Table Handle} {order : List String}

/-- The handles of a table in the order that is asked for, if that is accepted. -/
def reordered (s : Session) (t : Table Handle) (order : List String) : Table Handle :=
  match (s.view t).badOrder? order with
  | none => t.apply (.order order)
  | some _ => t

/-- A reordering puts another table of the same handles under the name. -/
theorem operate_reorder [Externals] (s : Session) (on : String) (t : Table Handle) (order : List String)
    (keep : Option String) :
    (s.operate on t (.write (.reorder order)) keep).2.1 = s.bindTable on (s.reordered t order) := by
  rw [operate_write, reordered]
  cases h : (s.view t).badOrder? order with
  | none => simp only [Table.plan, h, settle]
  | some e => simp only [Table.plan, h, settle]; rfl

/-- The cells are reordered as the handles are. -/
theorem view_reorder (s : Session) (t : Table Handle) (order : List String) :
    s.view (s.reordered t order) = (s.view t).write (.reorder order) := by
  rw [reordered, Table.write]
  cases h : (s.view t).badOrder? order with
  | none => simp only [Table.plan, h]; exact Table.map_apply s.store.read t (.order order)
  | some e => simp only [Table.plan, h]; rfl

/-- Every place stays in its buffer. -/
theorem reorder_stays (ht : s.tables.lookup on = some t) (hn : t.names.Nodup) (q : Reference) :
    Stays s (s.bindTable on (s.reordered t order)) q := by
  refine rebind_stays ht fun name _ => ?_
  rw [reordered]
  split
  · rename_i hgood
    refine Table.column?_order ?_ name
    have hperm := (Table.badOrder?_eq_none_iff_perm (by rwa [view, Table.names_map])).mp hgood
    rwa [view, Table.names_map] at hperm
  · rfl

end Session

/-! ## Cells and handles -/

namespace Table

/-- Reordering the columns of a table, whatever was done to it before. An order is accepted if it is a permutation of
the names. Then the names are in that order and each of them has the column it had; drawing the columns from a pool,
where each one that is taken out is replaced by the last one, comes to the same and leaves none behind; version, kept
directory and configuration stay. An order that is not accepted leaves the table as it is, and the error is one of names
if a name that is no column stands before the first repetition, else one of construction. Where the table is in a
session, all of its columns, and all columns of other tables and under other names, stay in their buffers, and the
buffers keep what is in them. -/
theorem reorder_permutes [Externals] {t : Table Column} (h : Reachable t) (least : Log.Severity) (order : List String) :
    let answer := t.answer (.write (.reorder order))
    let next := (t.perform least (.write (.reorder order))).2.1
    (answer = .ok (.written .done) ↔ order ~ t.names) ∧
    (order ~ t.names →
      next.names = order ∧ (∀ name, next.column? name = t.column? name) ∧ draw t.columns order = (next.columns, []) ∧
      next.version = t.version ∧ next.cached = t.cached ∧ next.config = t.config) ∧
    (¬order ~ t.names →
      next = t ∧ ∃ e, answer = .error e ∧
        (t.Strays order → e.family = .name) ∧ (¬t.Strays order → e.family = .construction)) ∧
    ∀ (s : Session) (on : String) (handles : Table Handle) (keep : Option String),
      s.tables.lookup on = some handles → s.view handles = t →
      let r := s.perform on (.operate (.write (.reorder order)) keep)
      r.1 = answer ∧ r.2.1.table? on = some next ∧ r.2.1.store = s.store ∧ ∀ q, r.2.1.locate q = s.locate q := by
  intro answer next
  have hn := h.wellFormed.nodup
  have hgood : t.badOrder? order = none ↔ order ~ t.names := badOrder?_eq_none_iff_perm hn
  have hnext : next = t.apply (t.plan (.reorder order)).1 := rfl
  have hanswer : answer = (t.plan (.reorder order)).2.map .written := rfl
  refine ⟨?_, fun hperm => ?_, fun hperm => ?_, fun s on handles keep hon hview => ?_⟩
  · rw [hanswer, ← hgood]
    cases hb : t.badOrder? order <;> simp [plan, hb, Except.map]
  · rw [hnext]
    simp only [plan, hgood.mpr hperm]
    exact ⟨names_order hn hperm, column?_order hperm, draw_columns hn hperm, rfl, rfl, rfl⟩
  · cases hb : t.badOrder? order with
    | none => exact absurd (hgood.mp hb) hperm
    | some e =>
      rw [hnext, hanswer]
      simp only [plan, hb]
      exact ⟨rfl, e, rfl, family_of_badOrder? hb⟩
  · have hperform : s.perform on (.operate (.write (.reorder order)) keep) =
        s.operate on handles (.write (.reorder order)) keep := by
      simp only [Session.perform, hon]
    have hnames : handles.names.Nodup := by
      rw [← hview, Session.view, names_map] at hn
      exact hn
    intro r
    have hr : r.2.1 = s.bindTable on (s.reordered handles order) := by
      simp only [r, hperform, Session.operate_reorder]
    rw [hr]
    refine ⟨?_, ?_, rfl, fun q => (Session.reorder_stays hon hnames q).locate_eq⟩
    · simp only [r, hperform, Session.operate, hview]
      rfl
    · simp only [Session.table?, Session.bindTable, Session.entered, List.lookup_cons_self, Option.map_some]
      refine congrArg some ((Session.view_reorder s handles order).trans ?_)
      rw [hview]
      rfl

/-- Four columns, one of them under another name too. After the first two are drawn the pool is out of order, but the
others are found in it. An order that repeats a column before a name that is none is no matter of names. -/
theorem reorder_permutes_ring :
    let columns : List (String × Column) := [("name", .text #["ip1", "ip2"]), ("s", .int #[0, 7]),
      ("turns", .int #[1, 2]), ("flag", .bool #[true, false])]
    let t : Table Column := { columns, config := {} }
    let s := ({ least := .warn } : Session).after [.step (.create "ring" columns {}),
      .step (.request "ring" (.operate (.query (.get (.one "s"))) (some "view")))]
    let order := ["turns", "name", "flag", "s"]
    let r := s.perform "ring" (.operate (.write (.reorder order)) none)
    Reachable t ∧ order ~ t.names ∧
      (draw columns ["turns", "name"]).2 = [("flag", .bool #[true, false]), ("s", .int #[0, 7])] ∧
      (t.perform .warn (.write (.reorder order))).2.1.names = order ∧
      r.2.1.Shares (.column "ring" "s") (.kept "view") ∧
      (∃ e, t.answer (.write (.reorder ["turns", "x", "turns"])) = .error e ∧ e.family = .name) ∧
      ∃ e, t.answer (.write (.reorder ["turns", "turns", "x"])) = .error e ∧ e.family = .construction := by
  intro columns t s order r
  have ht : Reachable t := .create (show create columns {} = .ok t from rfl)
  have hperm : order ~ t.names := by decide
  obtain ⟨-, hgood, -, hsession⟩ := reorder_permutes ht .warn order
  obtain ⟨-, -, -, hlocate⟩ := hsession s "ring" _ none rfl rfl
  have hshared : s.Shares (.column "ring" "s") (.kept "view") := ⟨_, rfl, rfl⟩
  obtain ⟨g, hcolumn, hview⟩ := hshared
  refine ⟨ht, hperm, rfl, (hgood hperm).1, ⟨g, (hlocate _).trans hcolumn, (hlocate _).trans hview⟩, ?_, ?_⟩
  · obtain ⟨-, -, hbad, -⟩ := reorder_permutes ht .warn ["turns", "x", "turns"]
    obtain ⟨-, e, he, hname, -⟩ := hbad (by decide)
    exact ⟨e, he, hname ⟨["turns"], "x", ["turns"], rfl, by decide, by decide⟩⟩
  · obtain ⟨-, -, hbad, -⟩ := reorder_permutes ht .warn ["turns", "turns", "x"]
    obtain ⟨-, e, he, -, hconstruction⟩ := hbad (by decide)
    refine ⟨e, he, hconstruction ?_⟩
    rintro ⟨_ | ⟨_, _ | ⟨_, before⟩⟩, name, after, horder, hnodup, hname⟩
    · cases horder
      exact hname (by decide)
    · cases horder
      exact absurd hnodup (by decide)
    · simp only [List.cons_append, List.cons.injEq] at horder
      obtain ⟨rfl, rfl, -⟩ := horder
      simp at hnodup

end Table

end NamedRows
