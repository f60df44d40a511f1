import NamedRows.Session.Request
import NamedRows.Table.Run

/-!
# Runs of sessions

What is done in a session, one step after another (`Step`, `Session.run`), and what is seen of it: the answers, and the
tables and columns that are there in the end (`Session.table?`, `Session.column?`). Between its steps a run may ask
questions on the side (`Entry`); `Session.results` are the answers to the steps themselves. What such a question reads
may be kept, under a name that is none of those the steps use (`Step.names`).
-/

namespace NamedRows

/-- What can be done in a session. -/
inductive Step
  /-- A table is made and kept under a name. -/
  | create (name : String) (columns : List (String × Column)) (config : Config)
  /-- A request about the table of a name. -/
  | request (on : String) (r : Request)
  /-- A kept column is filled with a value. -/
  | fill (name : String) (value : Cell)

/-- The name in a reference under which its table or column is kept. -/
def Reference.holder : Reference → String
  | kept name => name
  | column table _ => table

/-- The names of tables and kept columns in a request. -/
def Request.names : Request → List String
  | operate _ keep => keep.toList
  | assignFrom _ ref => [ref.holder]
  | copy keep => keep.toList
  | rebuild _ keep => keep.toList
  | contents ref => [ref.holder]
  | shares a b => [a.holder, b.holder]

/-- The names of tables and kept columns that a step uses. -/
def Step.names : Step → List String
  | create name _ _ => [name]
  | request on r => on :: r.names
  | fill name _ => [name]

/-- An entry of a run. -/
inductive Entry
  /-- A step of the run, which may be a question too. -/
  | proper (step : Step)
  /-- A question on the side to the table of a name; what is read may be kept. -/
  | aside (on : String) (q : Query) (keep : Option String)

namespace Entry

/-- What is done. -/
def step : Entry → Step
  | proper s => s
  | aside on q keep => .request on (.operate (.query q) keep)

/-- The step of the run, if the entry is one. -/
def proper? : Entry → Option Step
  | proper s => some s
  | aside _ _ _ => none

/-- The name under which a reading on the side is kept. -/
def kept? : Entry → Option String
  | proper _ => none
  | aside _ _ keep => keep

end Entry

namespace Session

/-- The cells of the table of a name. -/
def table? (s : Session) (name : String) : Option (Table Column) := (s.tables.lookup name).map s.view

/-- The cells of a kept column. -/
def column? (s : Session) (name : String) : Option Column := (s.kept.lookup name).map s.store.read

variable [Externals]

/-- What comes of a step: the answer, the session afterwards, and the lines written. A table that cannot be made and a
column that cannot be filled leave the session as it was. -/
def step (s : Session) : Step → Except Error Answer × Session × List Log.Line
  | .create name columns config =>
    match s.create name columns config with
    | .ok (s', lines) => (.ok (.written .done), s', lines)
    | .error e => (.error e, s, [])
  | .request on r => s.perform on r
  | .fill name value =>
    match s.fillKept name value with
    | .ok s' => (.ok (.written .done), s', [])
    | .error e => (.error e, s, [])

/-- The answers to what is done one after another, the session it leaves behind, and the lines it writes. -/
def run (s : Session) : List Entry → List (Except Error Answer) × Session × List Log.Line
  | [] => ([], s, [])
  | entry :: entries =>
    let (answer, next, lines) := s.step entry.step
    let (answers, last, more) := next.run entries
    (answer :: answers, last, lines ++ more)

/-- The answers to the steps of a run. A directory that a table in an answer keeps is left out. -/
def results (s : Session) (entries : List Entry) : List (Except Error Answer) :=
  (entries.zip (s.run entries).1).filterMap fun p => p.1.proper?.map fun _ => p.2.map (Answer.forget {})

end Session

end NamedRows
