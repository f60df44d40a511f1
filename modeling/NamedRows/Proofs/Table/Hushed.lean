import NamedRows.Proofs.Outcome
import NamedRows.Proofs.Table.Columns
import NamedRows.Table.Operation

/-!
# Tables that report nothing

A hushed table is the table with its reports turned off, if that is asked for (`Table.hushed`): it has the same columns,
version and kept directory. It answers every operation as the table does (`answer_hushed`) and changes in the same way
(`change_hushed`, `apply_hushed`). What an operation writes are the lines for some events, whatever the least severity
(`reporting_lines`); so the lines under a least severity are those under the lowest one that are not below it, and a
hushed table writes none (`lines_hushed`).
-/

namespace NamedRows

/-- The configuration, with reports turned off if that is asked for. -/
def Config.hushed (quiet : Bool) (c : Config) : Config := { c with reports := c.reports && !quiet }

def Table.hushed {κ : Type} (quiet : Bool) (t : Table κ) : Table κ := { t with config := t.config.hushed quiet }

def Reading.hushed {κ : Type} (quiet : Bool) : Reading κ → Reading κ
  | .table t => .table (t.hushed quiet)
  | r => r

def Answer.hushed (quiet : Bool) : Answer → Answer
  | .reading r => .reading (r.hushed quiet)
  | a => a

/-- The lines that are written of those that would be under the lowest severity. -/
def Log.heard (quiet : Bool) (least : Log.Severity) (lines : List Log.Line) : List Log.Line :=
  if quiet then [] else lines.filter (Log.Line.isWritten least)

theorem Config.hushed_false (c : Config) : c.hushed false = c := by
  simp [Config.hushed]

theorem Table.hushed_false {κ : Type} (t : Table κ) : t.hushed false = t := by
  simp [Table.hushed, Config.hushed_false]

theorem Answer.hushed_false (a : Answer) : a.hushed false = a := by
  cases a with
  | reading r => cases r <;> simp [Answer.hushed, Reading.hushed, Table.hushed_false]
  | _ => rfl

theorem Log.heard_append (quiet : Bool) (least : Log.Severity) (lines more : List Log.Line) :
    heard quiet least (lines ++ more) = heard quiet least lines ++ heard quiet least more := by
  cases quiet with
  | true => rfl
  | false => exact List.filter_append lines more

theorem Log.heard_nil (quiet : Bool) (least : Log.Severity) : heard quiet least [] = [] := by
  cases quiet <;> rfl

namespace Table

variable {κ : Type} (quiet : Bool) (t : Table Column)

/-! ## Answers -/

theorem cols_hushed (u : Table κ) (names : List String) :
    (u.hushed quiet).cols names = (u.cols names).map (hushed quiet) := by
  have hbad := badName?_congr (t := u.hushed quiet) (u := u) rfl Error.Construction.duplicateColumn [] names
  unfold cols
  rw [hbad]
  cases u.badName? .duplicateColumn [] names <;> rfl

theorem get_hushed [Externals] (columns : Columns) :
    (t.hushed quiet).get columns = (t.get columns).map (Reading.hushed quiet) := by
  cases columns with
  | one text =>
    have hcomputed : (t.hushed quiet).computed text = t.computed text := rfl
    simp only [get, hcomputed, map_bind]
    refine bind_congr_ok fun c _ => ?_
    cases c <;> rfl
  | many names =>
    simp only [get, cols_hushed, bind_map, map_bind]
    rfl

theorem select_hushed [Externals] (sel : Selector) : (t.hushed quiet).select sel = t.select sel := rfl

theorem restrict_hushed (s : Selection) (r : Reading Column) :
    restrict s (r.hushed quiet) = (restrict s r).map (Reading.hushed quiet) := by
  cases r with
  | cell c => rfl
  | table u => rfl
  | column c =>
    simp only [Reading.hushed, restrict, pick]
    split
    · split <;> rfl
    · rfl

theorem getAt_hushed [Externals] (columns : Columns) (sel : Selector) :
    (t.hushed quiet).getAt columns sel = (t.getAt columns sel).map (Reading.hushed quiet) := by
  simp only [getAt, get_hushed, select_hushed, bind_map, map_bind, restrict_hushed]

theorem rows_hushed [Externals] (sel : Selector) : (t.hushed quiet).rows sel = (t.rows sel).map (hushed quiet) := by
  have hsource : (t.hushed quiet).source = t.source := rfl
  simp only [rows, hsource, map_bind]
  rfl

theorem ask_hushed [Externals] (q : Query) : (t.hushed quiet).ask q = (t.ask q).map (Answer.hushed quiet) := by
  cases q with
  | get columns =>
    simp only [ask, get_hushed, map_map]
    rfl
  | getAt columns sel =>
    simp only [ask, getAt_hushed, map_map]
    rfl
  | cols names =>
    simp only [ask, cols_hushed, map_map]
    rfl
  | rows sel =>
    simp only [ask, rows_hushed, map_map]
    rfl
  | mask sel | select sel | resolve sel strict overrun | isRepeated name | directory | matching text =>
    simp only [ask, map_map]
    rfl
  | row name occurrence =>
    simp only [ask, map_bind]
    rfl
  | column name | contains name => rfl

theorem plan_hushed (w : Write) : (t.hushed quiet).plan w = t.plan w := by
  cases w with
  | reorder names =>
    have hbad := badName?_congr (t := t.hushed quiet) (u := t) rfl Error.Construction.duplicateInOrder [] names
    simp only [plan, badOrder?, hbad]
    rfl
  | assign name column | broadcast name value | delete name | fill name value => rfl

theorem answer_hushed [Externals] (op : Operation) :
    (t.hushed quiet).answer op = (t.answer op).map (Answer.hushed quiet) := by
  cases op with
  | query q => exact ask_hushed quiet t q
  | write w =>
    simp only [answer, plan_hushed, map_map]
    rfl

/-! ## Changes -/

theorem built?_hushed [Externals] (q : Query) : (t.hushed quiet).built? q = t.built? q := by
  have hconsults : (t.hushed quiet).consults q = t.consults q := by
    cases q with
    | getAt columns sel =>
      simp only [consults, get_hushed]
      cases t.get columns <;> rfl
    | _ => rfl
  unfold built?
  rw [hconsults]
  rfl

theorem change_hushed [Externals] (op : Operation) : (t.hushed quiet).change op = t.change op := by
  cases op with
  | query q => simp only [change, built?_hushed]
  | write w => simp only [change, plan_hushed]

theorem stamp_hushed (u : Table κ) (name : String) : (u.stamp name).hushed quiet = (u.hushed quiet).stamp name := by
  have hkey : (u.hushed quiet).isKey name = u.isKey name := rfl
  unfold stamp
  rw [hkey]
  split <;> rfl

theorem apply_hushed (u : Table κ) (c : Change κ) : (u.apply c).hushed quiet = (u.hushed quiet).apply c := by
  cases c with
  | keep | cache d | order names => rfl
  | put name column => exact stamp_hushed quiet { u with columns := placed u.columns name column } name
  | touch name => exact stamp_hushed quiet u name
  | remove name => exact stamp_hushed quiet { u with columns := u.columns.filter fun p => p.1 ≠ name } name

/-! ## Lines -/

/-- The lines written under each least severity are those for some events of the table. -/
def Reporting (lines : Log.Severity → List Log.Line) : Prop :=
  ∃ events : List (Log.Event × List (String × String)),
    ∀ least, lines least = events.flatMap fun e => t.report least e.1 e.2

variable {t}

theorem Reporting.nil : t.Reporting fun _ => [] := ⟨[], fun _ => rfl⟩

theorem Reporting.report (e : Log.Event) (fields : List (String × String)) :
    t.Reporting fun least => t.report least e fields :=
  ⟨[(e, fields)], fun _ => (List.append_nil _).symm⟩

theorem Reporting.append {lines more : Log.Severity → List Log.Line} (h : t.Reporting lines) (h' : t.Reporting more) :
    t.Reporting fun least => lines least ++ more least := by
  obtain ⟨events, he⟩ := h
  obtain ⟨events', he'⟩ := h'
  refine ⟨events ++ events', fun least => ?_⟩
  simp only [he, he', List.flatMap_append]

/-- A table with its reports turned off writes no line. -/
theorem Reporting.eq_nil {lines : Log.Severity → List Log.Line} (h : t.Reporting lines) (ht : t.config.reports = false)
    (least : Log.Severity) : lines least = [] := by
  obtain ⟨events, he⟩ := h
  rw [he]
  refine List.flatMap_eq_nil_iff.mpr fun e _ => ?_
  simp [Table.report, ht]

/-- Of the lines under the lowest severity those are written that are not below the least one. -/
theorem Reporting.filter_eq {lines : Log.Severity → List Log.Line} (h : t.Reporting lines) (least : Log.Severity) :
    lines least = (lines .trace).filter (Log.Line.isWritten least) := by
  obtain ⟨events, he⟩ := h
  rw [he, he, List.filter_flatMap]
  refine congrArg (List.flatMap · events) (funext fun e => ?_)
  have htrace : Log.Severity.trace ≤ e.1.severity := Nat.zero_le _
  by_cases hreports : t.config.reports = true
  · by_cases hleast : least ≤ e.1.severity
    · simp [Table.report, hreports, htrace, hleast, Log.Line.isWritten, Log.Event.line]
    · simp [Table.report, hreports, htrace, hleast, Log.Line.isWritten, Log.Event.line]
  · simp [Table.report, hreports]

theorem reporting_rejected {α : Type} (sel : Selector) (r : Except Error α) :
    t.Reporting fun least => t.reportRejected least sel r := by
  cases r with
  | ok a => exact .nil
  | error e => exact .report _ _

theorem reporting_rejection [Externals] (q : Query) : t.Reporting fun least => t.rejection least q := by
  cases q with
  | getAt columns sel =>
    simp only [rejection]
    split
    · exact reporting_rejected sel _
    · exact .nil
  | rows sel | mask sel | select sel => exact reporting_rejected sel _
  | get columns | cols names | resolve sel strict overrun | column name | contains name | isRepeated name
  | row name occurrence | directory | matching text => exact .nil

theorem reporting_lines [Externals] (t : Table Column) (op : Operation) :
    t.Reporting fun least => t.lines least op := by
  cases op with
  | query q =>
    have hrejection := reporting_rejection (t := t) q
    cases hb : t.built? q with
    | none =>
      simp only [lines, hb]
      exact Reporting.nil.append hrejection
    | some d =>
      simp only [lines, hb]
      exact (Reporting.report _ _).append hrejection
  | write w =>
    simp only [lines]
    split
    · cases w with
      | fill name value => exact .nil
      | assign name column | broadcast name value | delete name | reorder names => exact .report _ _
    · exact .nil

/-- A hushed table writes no line, and another one those that are not below the least severity. -/
theorem Reporting.hushed_eq {lines : Table Column → Log.Severity → List Log.Line}
    (h : ∀ t : Table Column, t.Reporting (lines t)) (quiet : Bool) (t : Table Column) (least : Log.Severity) :
    lines (t.hushed quiet) least = Log.heard quiet least (lines t .trace) := by
  cases quiet with
  | true => exact (h _).eq_nil (by simp [hushed, Config.hushed]) least
  | false =>
    rw [hushed_false]
    exact (h t).filter_eq least

theorem lines_hushed [Externals] (quiet : Bool) (t : Table Column) (least : Log.Severity) (op : Operation) :
    (t.hushed quiet).lines least op = Log.heard quiet least (t.lines .trace op) :=
  Reporting.hushed_eq (fun t => reporting_lines t op) quiet t least

theorem reportCreated_hushed (quiet : Bool) (t : Table Column) (least : Log.Severity) :
    (t.hushed quiet).reportCreated least = Log.heard quiet least (t.reportCreated .trace) :=
  Reporting.hushed_eq (fun _ => Reporting.report _ _) quiet t least

theorem create_hushed (quiet : Bool) (columns : List (String × Column)) (config : Config) :
    create columns (config.hushed quiet) = (create columns config).map (hushed quiet) := by
  unfold create
  cases fault? columns <;> rfl

theorem config_of_create {columns : List (String × Column)} {config : Config} {t : Table Column}
    (h : create columns config = .ok t) : t.config = config := by
  unfold create at h
  split at h
  · cases h
  · cases h
    rfl

end Table

end NamedRows
