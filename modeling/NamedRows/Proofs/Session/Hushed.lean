import NamedRows.Proofs.Session.Alike
import NamedRows.Proofs.Table.Hushed

/-!
# What is logged makes no difference

A hushed session has another least severity, and all reports turned off if that is asked for (`Session.hushed`). It
takes every step as the session does, and the lines it writes are those that are heard of the ones under the lowest
severity (`step_hushed`); so do whole runs (`run_hushed`). Two runs that differ in what is reported agree with the run
that reports nothing, and so with each other (`logging_neutral`).
-/

namespace NamedRows

/-- The request, with reports turned off in a configuration that it gives, if that is asked for. -/
def Request.hushed (quiet : Bool) : Request → Request
  | .rebuild config keep => .rebuild (config.hushed quiet) keep
  | r => r

def Step.hushed (quiet : Bool) : Step → Step
  | .create name columns config => .create name columns (config.hushed quiet)
  | .request on r => .request on (r.hushed quiet)
  | .fill name value => .fill name value

def Entry.hushed (quiet : Bool) : Entry → Entry
  | .proper step => .proper (step.hushed quiet)
  | .aside on q keep => .aside on q keep

theorem Entry.step_hushed (quiet : Bool) (entry : Entry) : (entry.hushed quiet).step = entry.step.hushed quiet := by
  cases entry <;> rfl

theorem Step.hushed_false (step : Step) : step.hushed false = step := by
  cases step with
  | create name columns config => rw [hushed, Config.hushed_false]
  | fill name value => rfl
  | request on r =>
    cases r with
    | rebuild config keep => rw [hushed, Request.hushed, Config.hushed_false]
    | _ => rfl

theorem Entry.hushed_false (entry : Entry) : entry.hushed false = entry := by
  cases entry with
  | proper step => rw [hushed, Step.hushed_false]
  | aside on q keep => rfl

theorem map_hushed_false (entries : List Entry) : entries.map (Entry.hushed false) = entries :=
  (List.map_congr_left fun entry _ => Entry.hushed_false entry).trans (List.map_id entries)

namespace Session

/-- The session under another least severity, with all reports turned off if that is asked for. -/
def hushed (quiet : Bool) (least : Log.Severity) (s : Session) : Session where
  store := s.store
  tables := s.tables.map fun p => (p.1, p.2.hushed quiet)
  kept := s.kept
  least := least

theorem hushed_false (s : Session) : s.hushed false s.least = s := by
  simp [hushed, Table.hushed_false]

/-- What a step comes to in a hushed session, given what it comes to in the session under the lowest severity. -/
def outcome (quiet : Bool) (least : Log.Severity) (r : Except Error Answer × Session × List Log.Line) :
    Except Error Answer × Session × List Log.Line :=
  (r.1.map (Answer.hushed quiet), r.2.1.hushed quiet least, Log.heard quiet least r.2.2)

/-- Whether the table that a step may write lines about reports events. -/
def reports (s : Session) : Step → Bool
  | .create _ _ config | .request _ (.rebuild config _) => config.reports
  | .request on _ => (s.tables.lookup on).any fun t => t.config.reports
  | .fill _ _ => false

variable (quiet : Bool) (least : Log.Severity) (s : Session) (t : Table Handle)

/-! ## Buffers and names -/

theorem handles_hushed : (s.hushed quiet least).handles = s.handles := by
  simp only [handles, hushed, List.flatMap_map]
  rfl

theorem lookup_hushed (name : String) :
    (s.hushed quiet least).tables.lookup name = (s.tables.lookup name).map (Table.hushed quiet) :=
  Table.lookup_map (Table.hushed quiet) s.tables name

theorem locate_hushed (ref : Reference) : (s.hushed quiet least).locate ref = s.locate ref := by
  cases ref with
  | kept name => rfl
  | column table name =>
    simp only [locate, lookup_hushed]
    cases s.tables.lookup table <;> rfl

theorem bindTable_hushed (name : String) :
    (s.bindTable name t).hushed quiet least = (s.hushed quiet least).bindTable name (t.hushed quiet) := by
  simp only [bindTable, hushed, entered_map (Table.hushed quiet)]

theorem overwrite_hushed (h : Handle) (c : Column) :
    (s.hushed quiet least).overwrite h c = ((s.overwrite h c).1.hushed quiet least, (s.overwrite h c).2) := by
  unfold overwrite
  rw [handles_hushed]
  split <;> rfl

theorem holdAll_hushed (columns : List (String × Column)) :
    (s.hushed quiet least).holdAll columns = ((s.holdAll columns).1.hushed quiet least, (s.holdAll columns).2) := by
  induction columns generalizing s with
  | nil => rfl
  | cons p rest ih =>
    obtain ⟨name, c⟩ := p
    have hhold : (s.hushed quiet least).hold c = ((s.hold c).1.hushed quiet least, (s.hold c).2) := rfl
    simp only [holdAll, hhold, ih]

theorem holdTable_hushed (cells : Table Column) :
    (s.hushed quiet least).holdTable (cells.hushed quiet) =
      ((s.holdTable cells).1.hushed quiet least, (s.holdTable cells).2.hushed quiet) := by
  have hcolumns : (cells.hushed quiet).columns = cells.columns := rfl
  simp only [holdTable, hcolumns, holdAll_hushed]
  rfl

/-! ## Operations -/

theorem view_hushed : (s.hushed quiet least).view (t.hushed quiet) = (s.view t).hushed quiet := rfl

theorem settle_hushed (op : Operation) (c : Change Column) :
    (s.hushed quiet least).settle (t.hushed quiet) op c =
      ((s.settle t op c).1.hushed quiet least, (s.settle t op c).2) := by
  cases c with
  | keep | cache d | touch name | remove name | order names => rfl
  | put name column =>
    rw [settle_put, settle_put]
    have htarget : target? (t.hushed quiet) name op = target? t name op := rfl
    rw [htarget]
    cases target? t name op with
    | none => rfl
    | some h => simp only [write, overwrite_hushed]

theorem sharedReading_hushed (q : Query) :
    sharedReading? (t.hushed quiet) q = (sharedReading? t q).map (Reading.hushed quiet) := by
  have hcols : ∀ names, (((t.hushed quiet).cols names).toOption.map Reading.table : Option (Reading Handle)) =
      ((t.cols names).toOption.map Reading.table).map (Reading.hushed quiet) := by
    intro names
    rw [Table.cols_hushed]
    cases t.cols names <;> rfl
  unfold sharedReading?
  split
  · rename_i text
    have hcolumn : (t.hushed quiet).column? text = t.column? text := rfl
    rw [hcolumn]
    cases t.column? text <;> rfl
  · exact hcols _
  · exact hcols _
  · rfl
  · rfl

theorem keepReading_hushed (name : String) (r : Reading Handle) :
    (s.keepReading name r).hushed quiet least = (s.hushed quiet least).keepReading name (r.hushed quiet) := by
  cases r with
  | cell c => rfl
  | column h => rfl
  | table u => exact bindTable_hushed quiet least s u name

theorem holdReading_hushed (r : Reading Column) :
    (s.hushed quiet least).holdReading (r.hushed quiet) =
      ((s.holdReading r).1.hushed quiet least, (s.holdReading r).2.hushed quiet) := by
  cases r with
  | cell c => rfl
  | column c => rfl
  | table u => simp only [holdReading, Reading.hushed, holdTable_hushed]

theorem keepAnswer_hushed (keep : Option String) (op : Operation) (answer : Except Error Answer) :
    (s.keepAnswer t keep op answer).hushed quiet least =
      (s.hushed quiet least).keepAnswer (t.hushed quiet) keep op (answer.map (Answer.hushed quiet)) := by
  cases keep with
  | none => rfl
  | some name =>
    cases op with
    | write w => rfl
    | query q =>
      cases answer with
      | error e => rfl
      | ok a =>
        cases a with
        | reading r =>
          simp only [keepAnswer, Except.map, Answer.hushed, sharedReading_hushed]
          cases sharedReading? t q with
          | none => simp only [Option.map_none, holdReading_hushed, keepReading_hushed]
          | some r' => simp only [Option.map_some, keepReading_hushed]
        | _ => rfl

theorem keepTable_hushed (keep : Option String) :
    (s.keepTable keep t).hushed quiet least = (s.hushed quiet least).keepTable keep (t.hushed quiet) := by
  cases keep with
  | none => rfl
  | some name => exact bindTable_hushed quiet least s t name

theorem least_holdTable (cells : Table Column) : (s.holdTable cells).1.least = s.least := by
  have hall : ∀ (columns : List (String × Column)) (s : Session), (s.holdAll columns).1.least = s.least := by
    intro columns
    induction columns with
    | nil => exact fun _ => rfl
    | cons p rest ih => exact fun s => ih (s.hold p.2).1
  exact hall cells.columns s

theorem fillKept_hushed (name : String) (value : Cell) :
    (s.hushed quiet least).fillKept name value = (s.fillKept name value).map (hushed quiet least) := by
  simp only [fillKept, locate_hushed, map_bind]
  refine bind_congr_ok fun h _ => bind_congr_ok fun filled _ => ?_
  simp only [overwrite_hushed]
  rfl

/-! ## Steps -/

section Steps

variable {s} (hs : s.least = .trace)
include hs

theorem operate_hushed [Externals] (on : String) (op : Operation) (keep : Option String) :
    (s.hushed quiet least).operate on (t.hushed quiet) op keep = outcome quiet least (s.operate on t op keep) := by
  simp only [operate, view_hushed, Table.answer_hushed, Table.change_hushed, settle_hushed, Table.lines_hushed, outcome,
    keepAnswer_hushed, bindTable_hushed, Table.apply_hushed, hs]
  rfl

theorem assignFrom_hushed [Externals] (on name : String) (h : Handle) :
    (s.hushed quiet least).assignFrom on (t.hushed quiet) name h =
      outcome quiet least (s.assignFrom on t name h) := by
  have hstore : (s.hushed quiet least).store = s.store := rfl
  simp only [assignFrom, view_hushed, Table.answer_hushed, Table.change_hushed, Table.lines_hushed, outcome, hstore,
    bindTable_hushed, Table.apply_hushed, hs]
  rfl

theorem rebuild_hushed (config : Config) (keep : Option String) :
    (s.hushed quiet least).rebuild (t.hushed quiet) (config.hushed quiet) keep =
      outcome quiet least (s.rebuild t config keep) := by
  have hcolumns : ((s.view t).hushed quiet).columns = (s.view t).columns := rfl
  simp only [rebuild, view_hushed, hcolumns, Table.create_hushed]
  cases Table.create (s.view t).columns config with
  | error e => simp only [Except.map, outcome, Log.heard_nil]
  | ok cells =>
    simp only [Except.map, Table.reportCreated_hushed, outcome, keepTable_hushed, hs]
    rfl

theorem perform_hushed [Externals] (on : String) (r : Request) :
    (s.hushed quiet least).perform on (r.hushed quiet) = outcome quiet least (s.perform on r) := by
  simp only [perform, lookup_hushed]
  cases s.tables.lookup on with
  | none => simp only [Option.map_none, outcome, Log.heard_nil]; rfl
  | some t =>
    cases r with
    | operate op keep => exact operate_hushed quiet least t hs on op keep
    | assignFrom name ref =>
      simp only [Option.map_some, Request.hushed, locate_hushed]
      cases s.locate ref with
      | error e => simp only [outcome, Log.heard_nil]; rfl
      | ok h => exact assignFrom_hushed quiet least t hs on name h
    | copy keep =>
      simp only [Option.map_some, Request.hushed, outcome, keepTable_hushed, Log.heard_nil]
      rfl
    | rebuild config keep => exact rebuild_hushed quiet least t hs config keep
    | contents ref =>
      simp only [Option.map_some, Request.hushed, outcome, locate_hushed, map_map, Log.heard_nil]
      rfl
    | shares a b =>
      simp only [Option.map_some, Request.hushed, outcome, locate_hushed, map_bind, Log.heard_nil]
      rfl

theorem create_hushed (name : String) (columns : List (String × Column)) (config : Config) :
    (s.hushed quiet least).create name columns (config.hushed quiet) =
      (s.create name columns config).map fun r => (r.1.hushed quiet least, Log.heard quiet least r.2) := by
  simp only [create, Table.create_hushed, bind_map, map_bind]
  refine bind_congr_ok fun cells _ => ?_
  simp only [holdTable_hushed, Table.reportCreated_hushed, ← bindTable_hushed, least_holdTable, hs]
  rfl

/-- A hushed session takes a step as the session does, and writes the lines that are heard. -/
theorem step_hushed [Externals] (step : Step) :
    (s.hushed quiet least).step (step.hushed quiet) = outcome quiet least (s.step step) := by
  cases step with
  | create name columns config =>
    simp only [Session.step, Step.hushed, create_hushed quiet least hs]
    cases s.create name columns config with
    | error e => simp only [Except.map, outcome, Log.heard_nil]
    | ok r => rfl
  | request on r => exact perform_hushed quiet least hs on r
  | fill name value =>
    simp only [Session.step, Step.hushed, fillKept_hushed]
    cases s.fillKept name value with
    | error e => simp only [Except.map, outcome, Log.heard_nil]
    | ok s' =>
      simp only [Except.map, outcome, Log.heard_nil]
      rfl

/-- Steps leave the least severity as it is. -/
theorem least_step [Externals] (step : Step) : (s.step step).2.1.least = .trace := by
  have hsame := step_hushed false .trace hs step
  rw [← hs, hushed_false, Step.hushed_false] at hsame
  rw [hsame, hs]
  rfl

/-- A hushed session takes a run as the session does, and writes the lines that are heard. -/
theorem run_hushed [Externals] (entries : List Entry) :
    (s.hushed quiet least).run (entries.map (Entry.hushed quiet)) =
      ((s.run entries).1.map (Except.map (Answer.hushed quiet)), (s.run entries).2.1.hushed quiet least,
        Log.heard quiet least (s.run entries).2.2) := by
  induction entries generalizing s with
  | nil => simp only [List.map_nil, run, Log.heard_nil]
  | cons entry entries ih =>
    simp only [List.map_cons, run, Entry.step_hushed, step_hushed quiet least hs, outcome,
      ih (least_step hs entry.step), Log.heard_append]

end Steps

/-- A step about a table that reports nothing writes no line. -/
theorem lines_step_of_not_reports [Externals] {step : Step} (h : s.reports step = false) : (s.step step).2.2 = [] := by
  cases step with
  | fill name value =>
    simp only [Session.step]
    cases s.fillKept name value <;> rfl
  | create name columns config =>
    simp only [Session.step]
    cases hr : s.create name columns config with
    | error e => rfl
    | ok r =>
      obtain ⟨cells, hcells, hr⟩ := bind_eq_ok.mp hr
      cases hr
      have hconfig : cells.config.reports = false := Table.config_of_create hcells ▸ h
      exact (Table.Reporting.report _ _).eq_nil hconfig _
  | request on r =>
    simp only [Session.step, perform]
    cases ht : s.tables.lookup on with
    | none => rfl
    | some t =>
      have hsilent (h : (s.tables.lookup on).any (fun t => t.config.reports) = false) : t.config.reports = false := by
        rwa [ht, Option.any_some] at h
      cases r with
      | operate op keep => exact (Table.reporting_lines (s.view t) op).eq_nil (hsilent h) _
      | assignFrom name ref =>
        cases hg : s.locate ref with
        | error e => simp only [hg]
        | ok g =>
          simp only [hg]
          have hlines := Table.reporting_lines (s.view t) (.write (.assign name (s.store.read g)))
          exact hlines.eq_nil (hsilent h) s.least
      | rebuild config keep =>
        simp only [rebuild]
        cases hcells : Table.create (s.view t).columns config with
        | error e => rfl
        | ok cells =>
          have hconfig : cells.config.reports = false := Table.config_of_create hcells ▸ h
          exact (Table.Reporting.report _ _).eq_nil hconfig _
      | copy keep | contents ref | shares a b => rfl

/-! ## Runs from the start -/

/-- A run from the start under any least severity, by the run under the lowest one. -/
theorem run_empty [Externals] (least : Log.Severity) (entries : List Entry) :
    ({ least } : Session).run (entries.map (Entry.hushed quiet)) =
      ((({ least := .trace } : Session).run entries).1.map (Except.map (Answer.hushed quiet)),
        (({ least := .trace } : Session).run entries).2.1.hushed quiet least,
        Log.heard quiet least (({ least := .trace } : Session).run entries).2.2) :=
  run_hushed quiet least (s := { least := .trace }) rfl entries

/-- Of the lines under the lowest severity a run writes those that are not below the least one. -/
theorem run_lines [Externals] (least : Log.Severity) (entries : List Entry) :
    (({ least } : Session).run entries).2.2 =
      (({ least := .trace } : Session).run entries).2.2.filter (Log.Line.isWritten least) := by
  have hplain := run_empty false least entries
  rw [map_hushed_false] at hplain
  exact congrArg (fun r => r.2.2) hplain

/-- Answers and sessions of a run are those of the run that reports nothing, but for the reports. -/
theorem run_silent [Externals] (least : Log.Severity) (entries : List Entry) :
    (({ least } : Session).run entries).1.map (Except.map (Answer.hushed true)) =
        (({} : Session).run (entries.map (Entry.hushed true))).1 ∧
      (({ least } : Session).run entries).2.1.hushed true .warn =
        (({} : Session).run (entries.map (Entry.hushed true))).2.1 := by
  have hplain := run_empty false least entries
  have hsilent := run_empty true .warn entries
  rw [map_hushed_false] at hplain
  rw [hplain, hsilent]
  refine ⟨?_, ?_⟩
  · rw [List.map_map]
    refine List.map_congr_left fun answer _ => ?_
    rw [Function.comp_apply, map_map]
    refine congrArg (fun f => Except.map f answer) (funext fun a => ?_)
    rw [Function.comp_apply, Answer.hushed_false]
  · simp [hushed, Table.hushed_false]

/-- What is logged makes no difference. Two runs that take the same steps get the same answers and end with the same
session, whatever the least severities are and whichever tables report events, except that their configurations say so:
the tables have the same columns, versions and kept directories, and they share the same buffers. Of the lines that a
run writes under the lowest severity it writes those under another one that are not below it, in the same order. A step
about a table that reports nothing writes no line, and so a run writes none if no configuration asks for reports. -/
theorem logging_neutral [Externals] {entries others : List Entry}
    (h : entries.map (Entry.hushed true) = others.map (Entry.hushed true)) (least least' : Log.Severity) :
    let r := ({ least } : Session).run entries
    let r' := ({ least := least' } : Session).run others
    r.1.map (Except.map (Answer.hushed true)) = r'.1.map (Except.map (Answer.hushed true)) ∧
      r.2.1.hushed true .warn = r'.2.1.hushed true .warn ∧
      r.2.2 = (({ least := .trace } : Session).run entries).2.2.filter (Log.Line.isWritten least) ∧
      (∀ step, r.2.1.reports step = false → (r.2.1.step step).2.2 = []) ∧
      ((∀ entry ∈ entries, entry.hushed true = entry) → r.2.2 = []) := by
  intro r r'
  obtain ⟨hanswers, hsession⟩ := run_silent least entries
  obtain ⟨hanswers', hsession'⟩ := run_silent least' others
  rw [← h] at hanswers' hsession'
  refine ⟨hanswers.trans hanswers'.symm, hsession.trans hsession'.symm, run_lines least entries,
    fun step hstep => lines_step_of_not_reports r.2.1 hstep, fun hquiet => ?_⟩
  have hentries : entries.map (Entry.hushed true) = entries :=
    (List.map_congr_left hquiet).trans (List.map_id entries)
  have hsilent := run_empty true least entries
  rw [hentries] at hsilent
  exact congrArg (fun r => r.2.2) hsilent

/-- The names are looked up and then overwritten. With reports turned off there are no lines; with reports turned on
and the lowest severity there are three, and two of them under the next one. -/
theorem logging_neutral_lattice :
    let entries (reports : Bool) := [Entry.proper (.create "ring" Table.lattice.columns { reports }),
      .aside "ring" .directory none,
      .proper (.request "ring" (.operate (.write (.broadcast "name" (.text "ip"))) none))]
    let run (reports : Bool) (least : Log.Severity) := ({ least } : Session).run (entries reports)
    (entries true).map (Entry.hushed true) = (entries false).map (Entry.hushed true) ∧
      (run true .info).1.map (Except.map (Answer.hushed true)) =
        (run false .trace).1.map (Except.map (Answer.hushed true)) ∧
      (run true .info).2.1.hushed true .warn = (run false .trace).2.1.hushed true .warn ∧
      (run true .trace).2.2.map (fun line => line.event) =
        ["TABLE_CREATED", "NAME_INDEX_BUILT", "COLUMN_BROADCAST"] ∧
      (run true .info).2.2 = (run true .trace).2.2.filter (Log.Line.isWritten .info) ∧
      (run true .info).2.2.map (fun line => line.event) = ["TABLE_CREATED", "COLUMN_BROADCAST"] ∧
      (run false .trace).2.2 = [] := by
  intro entries run
  have hsame : (entries true).map (Entry.hushed true) = (entries false).map (Entry.hushed true) := rfl
  obtain ⟨hanswers, hsession, hlines, -⟩ := logging_neutral hsame .info .trace
  obtain ⟨-, -, -, -, hquiet⟩ := logging_neutral hsame.symm .trace .info
  refine ⟨hsame, hanswers, hsession, ?_, hlines, ?_, hquiet ?_⟩
  · rfl
  · rfl
  · simp [entries, Entry.hushed, Step.hushed, Config.hushed, Request.hushed]

end Session

end NamedRows
