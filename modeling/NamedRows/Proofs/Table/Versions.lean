import Mathlib.Order.Monotone.Basic
import NamedRows.Proofs.Table.Atomic
import NamedRows.Externals.Standard

/-!
# Versions tell directories apart

The version of a table counts the writes of its key column (`Table.WritesKey`): a change takes a version exactly when it
is one of the key column (`apply_version`), which it is exactly for these writes (`plan_column?`). A change that takes
none leaves the key column as it is (`apply_key`). So over a whole run the versions do not fall
(`version_monotone`), and where two of them are equal the key column is the same (`key_of_version_eq`), and with it the
directory (`version_identifies_directory`).
-/

namespace NamedRows

theorem Directory.version_foldl (names : List String) (d : Directory) :
    (names.foldl Directory.push d).version = d.version := by
  induction names generalizing d with
  | nil => rfl
  | cons name names ih => exact ih (d.push name)

theorem Directory.version_build (c : Column) (version : Nat) : (Directory.build c version).version = version :=
  Directory.version_foldl c.labels.toList (Directory.empty version)

namespace Table

variable {t : Table Column}

/-- A write of the key column that does something: it succeeds, or it is a fill and there is a key column to take for
writing. -/
def WritesKey [Externals] (t : Table Column) (w : Write) : Prop :=
  w.column? = some t.config.key ∧
    match w with
    | .fill name _ => t.column? name ≠ none
    | _ => ∃ a, t.answer (.write w) = .ok a

/-- The table after the first `n` operations of a run. -/
def moment [Externals] (t : Table Column) (least : Log.Severity) (ops : List Operation) (n : Nat) : Table Column :=
  (t.run least (ops.take n)).2.1

/-! ## Changes -/

/-- A table takes a version for the changes of its key column. -/
theorem apply_version (t : Table Column) (c : Change Column) :
    (t.apply c).version = if c.column? = some t.config.key then t.version + 1 else t.version := by
  have hstamp : ∀ (u : Table Column) (name : String),
      (u.stamp name).version = if some name = some u.config.key then u.version + 1 else u.version := by
    intro u name
    unfold stamp isKey
    by_cases h : name = u.config.key
    · rw [if_pos (decide_eq_true h), if_pos (congrArg some h)]
    · rw [if_neg (by simpa using h), if_neg fun he => h (Option.some.inj he)]
  cases c with
  | keep | cache d | order names => rfl
  | put name column => exact hstamp { t with columns := placed t.columns name column } name
  | touch name => exact hstamp t name
  | remove name => exact hstamp { t with columns := t.columns.filter fun p => p.1 ≠ name } name

theorem apply_config (t : Table Column) (c : Change Column) : (t.apply c).config = t.config := by
  cases c with
  | keep | cache d | order names => rfl
  | put name column => exact (apply_others (.put column)).2
  | touch name => exact (apply_others .touch).2
  | remove name => exact (apply_others .remove).2

/-- A change that is none of the key column leaves it as it is. -/
theorem apply_key {c : Change Column} (hc : t.Fits c) (h : c.column? ≠ some t.config.key) :
    (t.apply c).column? t.config.key = t.column? t.config.key :=
  column?_apply h fun names horder => by
    subst horder
    exact mem_of_order hc

/-! ## Operations -/

/-- What a write changes is the key column exactly when it writes it. -/
theorem plan_column? [Externals] (t : Table Column) (w : Write) :
    (t.plan w).1.column? = some t.config.key ↔ t.WritesKey w := by
  cases w with
  | reorder names =>
    have hnone : (t.plan (.reorder names)).1.column? = none := by
      cases hb : t.badOrder? names <;> simp only [plan, hb] <;> rfl
    rw [hnone]
    exact ⟨fun h => (Option.some_ne_none _ h.symm).elim, fun h => h.1⟩
  | assign name column =>
    cases hm : t.misfit? name column with
    | some cause => simp [WritesKey, answer, plan, hm, Change.column?, Except.map]
    | none => simp [WritesKey, answer, plan, hm, Change.column?, Except.map, Write.column?]
  | delete name =>
    cases hc : t.column? name with
    | none => simp [WritesKey, answer, plan, hc, Change.column?, Except.map]
    | some column => simp [WritesKey, answer, plan, hc, Change.column?, Except.map, Write.column?]
  | broadcast name value =>
    cases hc : t.column? name with
    | none => simp [WritesKey, answer, plan, hc, Change.column?, Except.map, Write.column?]
    | some column =>
      cases hf : column.fill value with
      | ok filled => simp [WritesKey, answer, plan, hc, hf, Change.column?, Except.map, Write.column?]
      | error e => simp [WritesKey, answer, plan, hc, hf, Change.column?, Except.map]
  | fill name value =>
    cases hc : t.column? name with
    | none => simp [WritesKey, plan, hc, Change.column?]
    | some column =>
      cases value with
      | none => simp [WritesKey, plan, hc, Change.column?, Write.column?]
      | some value =>
        cases hf : column.fill value <;> simp [WritesKey, plan, hc, hf, Change.column?, Write.column?]

/-- A write of the key column takes a version. -/
theorem perform_version [Externals] (t : Table Column) (least : Log.Severity) (w : Write) (h : t.WritesKey w) :
    (t.perform least (.write w)).2.1.version = t.version + 1 :=
  (apply_version t _).trans (if_pos ((plan_column? t w).mpr h))

theorem version_le_perform [Externals] (t : Table Column) (least : Log.Severity) (op : Operation) :
    t.version ≤ (t.perform least op).2.1.version ∧ (t.perform least op).2.1.version ≤ t.version + 1 := by
  have happly : (t.perform least op).2.1.version = _ := apply_version t (t.change op)
  rw [happly]
  split <;> omega

/-- Where an operation takes no version, the key column stays. -/
theorem perform_key [Externals] (ht : t.WellFormed) (least : Log.Severity) (op : Operation)
    (h : (t.perform least op).2.1.version = t.version) :
    (t.perform least op).2.1.column? t.config.key = t.column? t.config.key := by
  refine apply_key (change_fits ht op) fun hkey => ?_
  have happly : (t.perform least op).2.1.version = _ := apply_version t (t.change op)
  rw [h, if_pos hkey] at happly
  omega

/-! ## Runs -/

section Runs

variable [Externals]

theorem run_append (t : Table Column) (least : Log.Severity) (ops more : List Operation) :
    (t.run least (ops ++ more)).2.1 = ((t.run least ops).2.1.run least more).2.1 := by
  induction ops generalizing t with
  | nil => rfl
  | cons op ops ih => exact ih (t.perform least op).2.1

variable (t) (least : Log.Severity) (ops : List Operation)

/-- The next moment is the same if the run is over by then. -/
theorem moment_succ (n : Nat) :
    t.moment least ops (n + 1) = match ops[n]? with
      | some op => ((t.moment least ops n).perform least op).2.1
      | none => t.moment least ops n := by
  unfold moment
  rw [List.take_add_one, run_append]
  cases ops[n]? <;> rfl

/-- What every operation keeps holds at every moment. -/
theorem moment_induction {P : Table Column → Prop} (h : P t)
    (hstep : ∀ u, P u → ∀ op, P (u.perform least op).2.1) (n : Nat) : P (t.moment least ops n) := by
  induction n with
  | zero => exact h
  | succ n ih =>
    rw [moment_succ]
    cases ops[n]? with
    | none => exact ih
    | some op => exact hstep _ ih op

/-- Versions do not fall. -/
theorem version_monotone : Monotone fun n => (t.moment least ops n).version := by
  refine monotone_nat_of_le_succ fun n => ?_
  simp only [moment_succ]
  split
  · exact (version_le_perform _ least _).1
  · exact le_rfl

theorem version_moment_le (n : Nat) : (t.moment least ops n).version ≤ t.version + n := by
  induction n with
  | zero => exact le_rfl
  | succ n ih =>
    rw [moment_succ]
    split
    · rename_i op _
      have hle := (version_le_perform (t.moment least ops n) least op).2
      omega
    · omega

theorem moment_wellFormed (ht : t.WellFormed) (n : Nat) : (t.moment least ops n).WellFormed :=
  moment_induction t least ops ht (fun _ hu op => perform_wellFormed hu least op) n

theorem moment_config (n : Nat) : (t.moment least ops n).config = t.config :=
  moment_induction t least ops (P := fun u => u.config = t.config) rfl
    (fun u hu op => (apply_config u (u.change op)).trans hu) n

variable {t}

/-- The key column stays for as long as its version does. -/
theorem key_of_version_eq (ht : t.WellFormed) {i j : Nat} (hij : i ≤ j)
    (h : (t.moment least ops i).version = (t.moment least ops j).version) :
    (t.moment least ops i).column? t.config.key = (t.moment least ops j).column? t.config.key := by
  induction j, hij using Nat.le_induction with
  | base => rfl
  | succ j hij ih =>
    -- the version of the moment in between is the same, for it is neither below the first nor above the last
    have hfirst : (t.moment least ops i).version ≤ (t.moment least ops j).version :=
      version_monotone t least ops hij
    have hlast : (t.moment least ops j).version ≤ (t.moment least ops (j + 1)).version :=
      version_monotone t least ops (Nat.le_succ j)
    have hj : (t.moment least ops i).version = (t.moment least ops j).version := by omega
    rw [ih hj]
    have hnext : (t.moment least ops (j + 1)).version = (t.moment least ops j).version := by omega
    rw [moment_succ] at hnext ⊢
    split at hnext
    · rename_i op _
      have hkey := perform_key (moment_wellFormed t least ops ht j) least op hnext
      rw [moment_config] at hkey
      exact hkey.symm
    · rfl

end Runs

/-- A directory carries the version of the table it is looked up in. -/
theorem version_directory (ht : t.WellFormed) {d : Directory} (h : t.directory = .ok d) :
    ∃ c, t.column? t.config.key = some c ∧ d = Directory.build c t.version ∧ d.version = t.version := by
  rw [ht.directory_eq] at h
  split at h
  · rename_i c hc
    cases h
    exact ⟨c, hc, rfl, Directory.version_build c t.version⟩
  · cases h

/-- Over a run of operations on a table, whether they succeed or fail, versions do not fall, and each write of the key
column takes a new one. Directories of one version that are looked up at any two moments are the same: the same names
in the same order with the same rows. A run takes no more versions than it has operations. -/
theorem version_identifies_directory [Externals] (h : Reachable t) (least : Log.Severity) (ops : List Operation) :
    (∀ i j, i ≤ j → (t.moment least ops i).version ≤ (t.moment least ops j).version) ∧
    (∀ i w, ops[i]? = some (.write w) → (t.moment least ops i).WritesKey w →
      (t.moment least ops i).version < (t.moment least ops (i + 1)).version) ∧
    (∀ i j d d', (t.moment least ops i).directory = .ok d → (t.moment least ops j).directory = .ok d' →
      d.version = d'.version → d = d') ∧
    (∀ i d, (t.moment least ops i).directory = .ok d → d.version = (t.moment least ops i).version) ∧
    ∀ i, (t.moment least ops i).version ≤ t.version + i := by
  have hwf := moment_wellFormed t least ops h.wellFormed
  -- of two moments one is not after the other
  have hdirectory : ∀ i j, i ≤ j → ∀ d d', (t.moment least ops i).directory = .ok d →
      (t.moment least ops j).directory = .ok d' → d.version = d'.version → d = d' := by
    intro i j hij d d' hd hd' hversion
    obtain ⟨c, hc, hb, hi⟩ := version_directory (hwf i) hd
    obtain ⟨c', hc', hb', hj⟩ := version_directory (hwf j) hd'
    have hij' : (t.moment least ops i).version = (t.moment least ops j).version := hi.symm.trans (hversion.trans hj)
    rw [moment_config] at hc hc'
    have hkey := key_of_version_eq least ops h.wellFormed hij hij'
    rw [hc, hc'] at hkey
    rw [hb, hb', hij', Option.some.inj hkey]
  refine ⟨fun i j hij => version_monotone t least ops hij, fun i w hw hkey => ?_, fun i j d d' hd hd' hversion => ?_,
    fun i d hd => ?_, version_moment_le t least ops⟩
  · rw [moment_succ, hw]
    exact (perform_version _ least w hkey).symm ▸ Nat.lt_succ_self _
  · rcases Nat.le_total i j with hij | hji
    · exact hdirectory i j hij d d' hd hd' hversion
    · exact (hdirectory j i hji d' d hd' hd hversion.symm).symm
  · obtain ⟨c, -, -, hversion⟩ := version_directory (hwf i) hd
    exact hversion

/-- Deleting other columns between two look-ups leaves the directory; deleting the names and writing the number 7 in
their place takes two versions. -/
theorem version_identifies_directory_lattice :
    let ops : List Operation := [.query .directory, .write (.delete "turns"), .query .directory,
      .write (.delete "name"), .write (.broadcast "name" (.int 7))]
    (List.range 6).map (fun i => (lattice.moment .info ops i).version) = [0, 0, 0, 0, 1, 2] ∧
      (∀ d d', (lattice.moment .info ops 1).directory = .ok d → (lattice.moment .info ops 3).directory = .ok d' →
        d = d') ∧
      (lattice.moment .info ops 3).WritesKey (.delete "name") ∧
      (lattice.moment .info ops 3).version < (lattice.moment .info ops 4).version := by
  intro ops
  have hversions : (List.range 6).map (fun i => (lattice.moment .info ops i).version) = [0, 0, 0, 0, 1, 2] := rfl
  obtain ⟨-, htaken, hsame, hlooked, -⟩ := version_identifies_directory lattice_reachable .info ops
  have hkey : (lattice.moment .info ops 3).WritesKey (.delete "name") := ⟨rfl, _, rfl⟩
  refine ⟨hversions, fun d d' hd hd' => ?_, hkey, htaken 3 (.delete "name") rfl hkey⟩
  exact hsame 1 3 d d' hd hd' ((hlooked 1 d hd).trans (hlooked 3 d' hd').symm)

end Table

end NamedRows
