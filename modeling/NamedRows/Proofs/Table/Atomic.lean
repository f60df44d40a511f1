import Mathlib.Data.List.Basic
import NamedRows.Proofs.Table.Forget
import NamedRows.Proofs.Table.Reordering
import NamedRows.Externals.Standard

/-!
# Writes that fail, and what writes leave alone

A write that fails changes nothing, but that a fill has touched its column by then (`change_of_failure`): the table
differs at most in the version of its key column. A write that succeeds leaves the columns that it does not name as
they are and where they are (`apply_others`), and an order of columns only moves them (`order_perm`). Both are put
together in `write_atomic`.
-/

namespace NamedRows

/-- The column that a write names; an order of columns names none in particular. -/
def Write.column? : Write → Option String
  | .assign name _ | .broadcast name _ | .delete name | .fill name _ => some name
  | .reorder _ => none

/-- Leaving out versions. -/
def Forgetting.versions : Forgetting := { version := true }

namespace Table

variable {t : Table Column}

/-! ## Failure -/

/-- What fails changes nothing; a fill that fails has touched its column. -/
theorem change_of_failure {w : Write} {e : Error} (h : (t.plan w).2 = .error e) :
    (t.plan w).1 = .keep ∨ ∃ name value, w = .fill name value ∧ (t.plan w).1 = .touch name := by
  cases w with
  | assign name column =>
    cases hm : t.misfit? name column with
    | some cause => exact Or.inl (by simp only [plan, hm])
    | none => simp only [plan, hm] at h; cases h
  | broadcast name value =>
    cases hc : t.column? name with
    | none => simp only [plan, hc] at h; cases h
    | some column =>
      cases hf : column.fill value with
      | ok filled => simp only [plan, hc, hf] at h; cases h
      | error e' => exact Or.inl (by simp only [plan, hc, hf])
  | delete name =>
    cases hc : t.column? name with
    | none => exact Or.inl (by simp only [plan, hc])
    | some column => simp only [plan, hc] at h; cases h
  | reorder names =>
    cases hb : t.badOrder? names with
    | some e' => exact Or.inl (by simp only [plan, hb])
    | none => simp only [plan, hb] at h; cases h
  | fill name value =>
    cases hc : t.column? name with
    | none => simp only [plan, hc] at h; cases h
    | some column =>
      cases value with
      | none => simp only [plan, hc] at h; cases h
      | some value =>
        cases hf : column.fill value with
        | ok filled => simp only [plan, hc, hf] at h; cases h
        | error e' => exact Or.inr ⟨name, some value, rfl, by simp only [plan, hc, hf]⟩

/-- A column that was touched leaves no trace but a version. -/
theorem stamp_versions (t : Table Column) (name : String) :
    (t.stamp name).forget .versions = t.forget .versions ∧ (t.stamp name).columns = t.columns ∧
      (t.stamp name).config = t.config := by
  unfold stamp
  split <;> exact ⟨rfl, rfl, rfl⟩

/-! ## Success -/

/-- The changes of one column, if any. -/
inductive Touches (name : String) : Change Column → Prop
  | keep : Touches name .keep
  | touch : Touches name (.touch name)
  | put (column : Column) : Touches name (.put name column)
  | remove : Touches name (.remove name)

/-- A write that names a column changes that one. -/
theorem plan_touches {w : Write} {name : String} (h : w.column? = some name) : Touches name (t.plan w).1 := by
  cases w with
  | reorder names => cases h
  | assign name' column =>
    cases h
    cases hm : t.misfit? name column with
    | some cause => simp only [plan, hm]; exact .keep
    | none => simp only [plan, hm]; exact .put column
  | delete name' =>
    cases h
    cases hc : t.column? name with
    | none => simp only [plan, hc]; exact .keep
    | some column => simp only [plan, hc]; exact .remove
  | broadcast name' value =>
    cases h
    cases hc : t.column? name with
    | none => simp only [plan, hc]; exact .put _
    | some column =>
      cases hf : column.fill value with
      | ok filled => simp only [plan, hc, hf]; exact .put filled
      | error e => simp only [plan, hc, hf]; exact .keep
  | fill name' value =>
    cases h
    cases hc : t.column? name with
    | none => simp only [plan, hc]; exact .keep
    | some column =>
      cases value with
      | none => simp only [plan, hc]; exact .touch
      | some value =>
        cases hf : column.fill value with
        | ok filled => simp only [plan, hc, hf]; exact .put filled
        | error e => simp only [plan, hc, hf]; exact .touch

theorem Touches.column? {c : Change Column} {name other : String} (h : Touches name c) (hc : c.column? = some other) :
    other = name := by
  cases h with
  | keep => cases hc
  | touch | put column | remove => exact (Option.some.inj hc).symm

/-- What a write changes is the column that it names, if anything. -/
theorem column?_of_plan {w : Write} {name : String} (h : (t.plan w).1.column? = some name) : w.column? = some name := by
  cases hw : w.column? with
  | some other => rw [(plan_touches hw).column? h]
  | none =>
    cases w with
    | reorder names => cases hb : t.badOrder? names <;> simp only [plan, hb] at h <;> cases h
    | assign name column | broadcast name value | delete name | fill name value => cases hw

/-- Replacing or adding a column leaves the columns of other names. -/
theorem filter_placed {κ : Type} (columns : List (String × κ)) (name : String) (c : κ) :
    (placed columns name c).filter (fun p => p.1 ≠ name) = columns.filter fun p => p.1 ≠ name := by
  unfold placed
  split
  · rw [List.filter_map]
    have hsame : ((fun p => decide (p.1 ≠ name)) ∘ fun p => if p.1 = name then (name, c) else p) =
        fun p : String × κ => decide (p.1 ≠ name) := by
      funext p
      simp only [Function.comp_apply]
      by_cases hp : p.1 = name
      · rw [if_pos hp]; simp [hp]
      · rw [if_neg hp]
    rw [hsame]
    refine (List.map_congr_left fun p hp => ?_).trans (List.map_id _)
    have hne : p.1 ≠ name := by simpa using (List.mem_filter.mp hp).2
    exact if_neg hne
  · simp

/-- The other columns stay as they are, in their order, and the configuration stays. -/
theorem apply_others {c : Change Column} {name : String} (h : Touches name c) :
    (t.apply c).columns.filter (fun p => p.1 ≠ name) = t.columns.filter (fun p => p.1 ≠ name) ∧
      (t.apply c).config = t.config := by
  cases h with
  | keep => exact ⟨rfl, rfl⟩
  | touch =>
    obtain ⟨-, hcolumns, hconfig⟩ := stamp_versions t name
    exact ⟨congrArg _ hcolumns, hconfig⟩
  | put column =>
    obtain ⟨-, hcolumns, hconfig⟩ := stamp_versions { t with columns := placed t.columns name column } name
    exact ⟨(congrArg _ hcolumns).trans (filter_placed t.columns name column), hconfig⟩
  | remove =>
    obtain ⟨-, hcolumns, hconfig⟩ := stamp_versions { t with columns := t.columns.filter fun p => p.1 ≠ name } name
    refine ⟨(congrArg _ hcolumns).trans ?_, hconfig⟩
    rw [List.filter_filter]
    simp only [Bool.and_self]

/-- The columns of all names, in the order of the table, are the columns of the table. -/
theorem filterMap_names (hn : t.names.Nodup) :
    (t.names.filterMap fun name => (t.column? name).map fun c => (name, c)) = t.columns := by
  have hlookup : ∀ p ∈ t.columns, t.column? p.1 = some p.2 := fun p hp => lookup_of_mem hn hp
  rw [names, List.filterMap_map]
  calc t.columns.filterMap ((fun name => (t.column? name).map fun c => (name, c)) ∘ Prod.fst)
      = t.columns.filterMap some := by
        refine List.filterMap_congr fun p hp => ?_
        simp [hlookup p hp]
    _ = t.columns := List.filterMap_some

/-- An order of the columns that lists each of them moves them and does nothing else. -/
theorem order_perm (ht : t.WellFormed) {names : List String} (h : t.badOrder? names = none) :
    (t.apply (.order names)).columns.Perm t.columns := by
  have hperm := (badOrder?_eq_none_iff_perm ht.nodup).mp h
  have hcolumns := hperm.filterMap fun name => (t.column? name).map fun c => (name, c)
  rw [filterMap_names ht.nodup] at hcolumns
  exact hcolumns

/-! ## All writes -/

/-- A write that fails leaves the columns, their order and the configuration as they are, and the whole table unless it
was a fill; every run after it is answered as if it had not been tried, up to the versions of directories. A write that
succeeds leaves the configuration as it is, and the other columns with their names and cells and in their order; an
order of columns keeps all of them. -/
theorem write_atomic [Externals] (h : Reachable t) (least : Log.Severity) (w : Write) :
    (∀ e, t.answer (.write w) = .error e →
      (t.perform least (.write w)).2.1.columns = t.columns ∧
      (t.perform least (.write w)).2.1.config = t.config ∧
      ((∀ name value, w ≠ .fill name value) → (t.perform least (.write w)).2.1 = t) ∧
      ∀ least' ops, (t.perform least (.write w)).2.1.answers .versions least' ops = t.answers .versions least' ops) ∧
    ∀ a, t.answer (.write w) = .ok a →
      (t.perform least (.write w)).2.1.config = t.config ∧
      match w.column? with
      | some name =>
        (t.perform least (.write w)).2.1.columns.filter (fun p => p.1 ≠ name) = t.columns.filter fun p => p.1 ≠ name
      | none => (t.perform least (.write w)).2.1.columns.Perm t.columns := by
  have hwf := h.wellFormed
  have hnext : (t.perform least (.write w)).2.1 = t.apply (t.plan w).1 := rfl
  rw [hnext]
  refine ⟨fun e he => ?_, fun a ha => ?_⟩
  · have hfail : (t.plan w).2 = .error e := by
      cases hp : (t.plan w).2 with
      | ok a => rw [answer, hp] at he; cases he
      | error e' => rw [answer, hp] at he; cases he; rfl
    rcases change_of_failure hfail with hkeep | ⟨name, value, hfill, htouch⟩
    · rw [hkeep]
      exact ⟨rfl, rfl, fun _ => rfl, fun _ _ => rfl⟩
    · obtain ⟨hversions, hcolumns, hconfig⟩ := stamp_versions t name
      have hwf' : (t.apply (t.plan w).1).WellFormed := apply_wellFormed hwf (plan_fits hwf w)
      rw [htouch] at hwf' ⊢
      exact ⟨hcolumns, hconfig, fun hnot => absurd hfill (hnot name value),
        fun least' ops => answers_congr hwf' hwf hversions least' least' ops⟩
  · cases hw : w.column? with
    | some name => exact (apply_others (plan_touches hw)).symm
    | none =>
      cases w with
      | reorder names =>
        cases hb : t.badOrder? names with
        | some e => simp only [answer, plan, hb] at ha; cases ha
        | none =>
          simp only [plan, hb]
          exact ⟨rfl, order_perm hwf hb⟩
      | assign name column | broadcast name value | delete name | fill name value => cases hw

/-- A fill of the names with a number fails and takes a version, but the directory that is looked up next has the same
rows; a deletion leaves the names. -/
theorem write_atomic_lattice :
    lattice.answer (.write (.fill "name" (some (.int 7)))) = .error (.mismatch (.broadcast .int .text)) ∧
      (lattice.perform .info (.write (.fill "name" (some (.int 7))))).2.1.version = 1 ∧
      (lattice.perform .info (.write (.fill "name" (some (.int 7))))).2.1.answers .versions .info [.query .directory] =
        lattice.answers .versions .info [.query .directory] ∧
      (lattice.perform .info (.write (.delete "turns"))).2.1.columns.filter (fun p => p.1 ≠ "turns") =
        [("name", .text #["ip1", "ip2", "ip2", "ip3", "tab$end"])] := by
  have hfill : lattice.answer (.write (.fill "name" (some (.int 7)))) = .error (.mismatch (.broadcast .int .text)) :=
    rfl
  have hdelete : lattice.answer (.write (.delete "turns")) =
      .ok (.written (.removed (.int #[1, 2, 3, 4, 5]))) := rfl
  obtain ⟨-, -, -, hlater⟩ := (write_atomic lattice_reachable .info (.fill "name" (some (.int 7)))).1 _ hfill
  exact ⟨hfill, rfl, hlater .info [.query .directory],
    ((write_atomic lattice_reachable .info (.delete "turns")).2 _ hdelete).2⟩

end Table

end NamedRows
