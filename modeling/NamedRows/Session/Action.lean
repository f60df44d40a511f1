import NamedRows.Session.Run

/-!
# Actions on what a session holds

Columns are handed around without a copy. Beside the steps of a run there are two ways to do so that are no requests
(`Action`): a column may be kept under one more name, and what is kept may be given up, whereupon its buffers have one
use less. What is seen of a session is the contents of the places it has columns in (`Session.contents?`), and which of
these places are in one buffer (`Session.Shares`).
-/

namespace NamedRows

/-- What can be done with what a session holds. -/
inductive Action
  | step (step : Step)
  /-- A column is kept under a name too, in the buffer that it is in. -/
  | clone (name : String) (ref : Reference)
  | dropTable (name : String)
  | dropColumn (name : String)

namespace Session

variable [Externals]

/-- What comes of an action: the answer, and the session afterwards. -/
def act (s : Session) : Action → Except Error Answer × Session
  | .step step =>
    let (answer, s', _) := s.step step
    (answer, s')
  | .clone name ref =>
    match s.locate ref with
    | .ok h => (.ok (.column (some (s.store.read h))), s.bindColumn name h)
    | .error e => (.error e, s)
  | .dropTable name => (.ok (.written .done), { s with tables := s.tables.filter fun p => p.1 ≠ name })
  | .dropColumn name => (.ok (.written .done), { s with kept := s.kept.filter fun p => p.1 ≠ name })

/-- The session after actions that are done one after another. -/
def after (s : Session) (actions : List Action) : Session := actions.foldl (fun s a => (s.act a).2) s

/-- The column in a place. -/
def contents? (s : Session) : Reference → Option Column
  | .kept name => s.column? name
  | .column table name => (s.table? table).bind fun t => t.column? name

/-- Both places have a column, and it is in one buffer. -/
def Shares (s : Session) (p q : Reference) : Prop := ∃ h, s.locate p = .ok h ∧ s.locate q = .ok h

end Session

end NamedRows
