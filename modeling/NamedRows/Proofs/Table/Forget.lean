import NamedRows.Proofs.Row.Agree
import NamedRows.Proofs.Table.WellFormed

/-!
# What answers do not depend on

The answers of a table without some of its details (`Table.forget`) are its own answers without them (`answer_forget`),
and an operation changes both alike (`perform_forget`). So two tables that differ only in such details answer every run
of operations alike (`answers_congr`). This rests on well-formedness: a kept directory is the one that would be built.
-/

namespace NamedRows

/-! ## Directories -/

theorem unstamped_foldl (names : List String) (d : Directory) :
    (names.foldl Directory.push d).unstamped = names.foldl Directory.push d.unstamped := by
  induction names generalizing d with
  | nil => rfl
  | cons name names ih => exact ih (d.push name)

/-- Directories of one column differ only in their versions. -/
theorem unstamped_build (c : Column) (version : Nat) : (Directory.build c version).unstamped = Directory.build c 0 :=
  unstamped_foldl c.labels.toList (Directory.empty version)

theorem build_forget (f : Forgetting) (c : Column) (version : Nat) :
    (Directory.build c version).forget f = Directory.build c (if f.version then 0 else version) := by
  unfold Directory.forget
  split
  · exact unstamped_build c version
  · rfl

namespace Table

variable {t u : Table Column}

theorem forget_wellFormed (h : t.WellFormed) (f : Forgetting) : (t.forget f).WellFormed :=
  ⟨h.nodup, h.size_eq, fun _ hd => nomatch hd⟩

theorem directory_forget (h : t.WellFormed) (f : Forgetting) :
    (t.forget f).directory = t.directory.map (Directory.forget f) := by
  have hc : (t.forget f).column? (t.forget f).config.key = t.column? t.config.key := rfl
  rw [(forget_wellFormed h f).directory_eq, h.directory_eq, hc]
  cases t.column? t.config.key with
  | none => rfl
  | some c => exact congrArg Except.ok (build_forget f c t.version).symm

theorem unstamped_forget (f : Forgetting) (d : Directory) : (d.forget f).unstamped = d.unstamped := by
  unfold Directory.forget
  split <;> rfl

/-! ## Rows -/

/-- The rows that selectors mean do not depend on the details. -/
theorem source_agrees (h : t.WellFormed) (f : Forgetting) (overrun : Overrun) :
    Source.Agrees { t.source with overrun } { (t.forget f).source with overrun } where
  rowCount_eq := rfl
  key_eq := rfl
  overrun_eq := rfl
  keyColumn_eq := rfl
  directory_eq := by
    show (t.forget f).directory.map Directory.unstamped = t.directory.map Directory.unstamped
    rw [directory_forget h, map_map]
    exact congrArg (fun g => Except.map g t.directory) (funext (unstamped_forget f))

theorem resolve_forget [Externals] (h : t.WellFormed) (f : Forgetting) (overrun : Overrun) (sel : Selector)
    (strict : Bool) :
    Source.select { (t.forget f).source with overrun } sel strict =
      Source.select { t.source with overrun } sel strict :=
  resolve_congr (source_agrees h f overrun) sel {} fun _ _ => rfl

theorem select_forget [Externals] (h : t.WellFormed) (f : Forgetting) (sel : Selector) (strict : Bool) :
    (t.forget f).source.select sel strict = t.source.select sel strict :=
  resolve_forget h f t.config.overrun sel strict

/-! ## Readings -/

theorem derived_forget {κ μ : Type} (f : Forgetting) (v : Table κ) (columns : List (String × μ)) :
    (v.forget f).derived columns = (v.derived columns).forget f := by
  simp [derived, forget]

theorem takeRows_forget (f : Forgetting) (rows : List Nat) : (t.forget f).takeRows rows = (t.takeRows rows).forget f :=
  derived_forget f t _

theorem cols_forget {κ : Type} (f : Forgetting) (v : Table κ) (names : List String) :
    (v.forget f).cols names = (v.cols names).map (forget f) := by
  have hnames : (v.forget f).names = v.names := rfl
  unfold cols
  rw [badName?_congr hnames]
  cases v.badName? .duplicateColumn [] names with
  | some e => rfl
  | none => exact congrArg Except.ok (derived_forget f v _)

theorem get_forget [Externals] (f : Forgetting) (columns : Columns) :
    (t.forget f).get columns = (t.get columns).map (Reading.forget f) := by
  cases columns with
  | one text =>
    show (t.computed text >>= _) = Except.map _ (t.computed text >>= _)
    rw [map_bind]
    refine bind_congr_ok fun c _ => ?_
    cases c <;> rfl
  | many names =>
    show ((t.forget f).cols names >>= _) = Except.map _ (t.cols names >>= _)
    rw [cols_forget, bind_map, map_bind]
    rfl

theorem restrict_forget (f : Forgetting) (s : Selection) (r : Reading Column) :
    restrict s (r.forget f) = (restrict s r).map (Reading.forget f) := by
  cases r with
  | cell c => rfl
  | table u => exact congrArg (fun u => Except.ok (Reading.table u)) (takeRows_forget f s.positions)
  | column c =>
    cases s with
    | rows positions => rfl
    | mask flags => rfl
    | single row =>
      simp only [Reading.forget, restrict, pick]
      cases c.cell? row <;> rfl

theorem getAt_forget [Externals] (h : t.WellFormed) (f : Forgetting) (columns : Columns) (sel : Selector) :
    (t.forget f).getAt columns sel = (t.getAt columns sel).map (Reading.forget f) := by
  unfold getAt
  rw [get_forget, bind_map, map_bind]
  refine bind_congr_ok fun whole _ => ?_
  rw [map_bind]
  show ((t.forget f).source.select sel true >>= _) = (t.source.select sel true >>= _)
  rw [select_forget h]
  exact bind_congr_ok fun s _ => restrict_forget f s whole

theorem rows_forget [Externals] (h : t.WellFormed) (f : Forgetting) (sel : Selector) :
    (t.forget f).rows sel = (t.rows sel).map (forget f) := by
  unfold rows
  rw [select_forget h, map_bind]
  exact bind_congr_ok fun s _ => congrArg Except.ok (takeRows_forget f s.positions)

/-! ## Answers -/

/-- A table without some details answers a question as the table does, without these details. -/
theorem ask_forget [Externals] (h : t.WellFormed) (f : Forgetting) (q : Query) :
    (t.forget f).ask q = (t.ask q).map (Answer.forget f) := by
  cases q with
  | get columns =>
    simp only [ask, get_forget, map_map]
    rfl
  | getAt columns sel =>
    simp only [ask, getAt_forget h, map_map]
    rfl
  | rows sel =>
    simp only [ask, rows_forget h, map_map]
    rfl
  | cols names =>
    simp only [ask, cols_forget, map_map]
    rfl
  | mask sel =>
    simp only [ask, Table.mask, Table.select, select_forget h, map_bind, map_map]
    rfl
  | select sel =>
    simp only [ask, Table.select, select_forget h, map_map]
    rfl
  | resolve sel strict overrun =>
    show (Source.select { (t.forget f).source with overrun := _ } sel strict).map _ = Except.map _ (Except.map _ _)
    rw [resolve_forget h, map_map]
    rfl
  | column name => rfl
  | contains name => rfl
  | isRepeated name =>
    simp only [ask, directory_forget h, map_map]
    refine congrArg (fun g => Except.map g t.directory) (funext fun d => ?_)
    simp only [Function.comp_apply, Directory.forget]
    split <;> rfl
  | row name occurrence =>
    show ((t.forget f).directory >>= _) = Except.map _ (t.directory >>= _)
    rw [directory_forget h, bind_map, map_bind]
    refine bind_congr_ok fun d _ => ?_
    have hrow : (d.forget f).row name occurrence = d.row name occurrence := by
      unfold Directory.forget
      split <;> rfl
    rw [hrow, map_bind]
    rfl
  | directory =>
    simp only [ask, directory_forget h, map_map]
    rfl
  | matching text =>
    show (t.matching text).map _ = Except.map _ (Except.map _ _)
    rw [map_map]
    rfl

theorem plan_forget (f : Forgetting) (w : Write) : (t.forget f).plan w = t.plan w := by
  cases w with
  | reorder names =>
    have hnames : (t.forget f).names = t.names := rfl
    simp only [plan, badOrder?, badName?_congr hnames]
    rfl
  | assign name column | broadcast name value | delete name | fill name value => rfl

/-- A table without some details answers an operation as the table does, without these details. -/
theorem answer_forget [Externals] (h : t.WellFormed) (f : Forgetting) (op : Operation) :
    (t.forget f).answer op = (t.answer op).map (Answer.forget f) := by
  cases op with
  | query q => exact ask_forget h f q
  | write w =>
    simp only [answer, plan_forget, map_map]
    rfl

/-! ## Changes -/

theorem forget_forget {κ : Type} (f : Forgetting) (v : Table κ) : (v.forget f).forget f = v.forget f := by
  obtain ⟨version, reports⟩ := f
  cases version <;> cases reports <;> simp [forget]

theorem stamp_forget {κ : Type} (f : Forgetting) (v : Table κ) (name : String) :
    ((v.forget f).stamp name).forget f = (v.stamp name).forget f := by
  have hkey : (v.forget f).isKey name = v.isKey name := rfl
  unfold stamp
  rw [hkey]
  split
  · obtain ⟨version, reports⟩ := f
    cases version <;> cases reports <;> simp [forget]
  · exact forget_forget f v

/-- A change acts on what is not left out alike. -/
theorem apply_forget {κ : Type} (f : Forgetting) (v : Table κ) (c : Change κ) :
    ((v.forget f).apply c).forget f = (v.apply c).forget f := by
  cases c with
  | keep => exact forget_forget f v
  | cache d => exact forget_forget f v
  | touch name => exact stamp_forget f v name
  | put name column => exact stamp_forget f { v with columns := placed v.columns name column } name
  | remove name => exact stamp_forget f { v with columns := v.columns.filter fun p => p.1 ≠ name } name
  | order names =>
    exact forget_forget f { v with columns := names.filterMap fun name => (v.column? name).map fun c => (name, c) }

/-- A question leaves a table as it was, but for the directory that it may keep. -/
theorem perform_query_forget [Externals] (f : Forgetting) (least : Log.Severity) (q : Query) :
    (t.perform least (.query q)).2.1.forget f = t.forget f := by
  show (t.apply (t.change (.query q))).forget f = _
  cases hb : t.built? q with
  | none => simp only [change, hb]; rfl
  | some d => simp only [change, hb]; rfl

/-- An operation changes tables alike that differ only in the details that are left out. -/
theorem perform_forget [Externals] {f : Forgetting} (h : t.forget f = u.forget f) (least other : Log.Severity)
    (op : Operation) :
    (t.perform least op).2.1.forget f = (u.perform other op).2.1.forget f := by
  cases op with
  | query q => rw [perform_query_forget, perform_query_forget, h]
  | write w =>
    show (t.apply (t.plan w).1).forget f = (u.apply (u.plan w).1).forget f
    have hplan : t.plan w = u.plan w := by rw [← plan_forget f, h, plan_forget]
    rw [hplan, ← apply_forget, h, apply_forget]

/-! ## Runs -/

/-- Tables that differ only in the details that are left out answer every run alike, but for these details. -/
theorem answers_congr [Externals] {f : Forgetting} (ht : t.WellFormed) (hu : u.WellFormed) (h : t.forget f = u.forget f)
    (least other : Log.Severity) (ops : List Operation) : t.answers f least ops = u.answers f other ops := by
  induction ops generalizing t u with
  | nil => rfl
  | cons op ops ih =>
    have hanswer : (t.answer op).map (Answer.forget f) = (u.answer op).map (Answer.forget f) := by
      rw [← answer_forget ht, h, answer_forget hu]
    have hnext := ih (perform_wellFormed ht least op) (perform_wellFormed hu other op) (perform_forget h least other op)
    exact List.cons_eq_cons.mpr ⟨hanswer, hnext⟩

end Table

end NamedRows
