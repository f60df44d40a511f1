import NamedRows.Session.Store
import NamedRows.Table.Operation

/-!
# Sessions

A session holds tables and single columns under names (`Session`). Their columns are in one store, so a column that is
handed out is not copied: it is the same buffer under one more handle. A buffer is overwritten in place only if a single
handle stands for it (`Session.overwrite`); otherwise the new contents go into a buffer of their own, and the other
handles keep what they had.
-/

namespace NamedRows

/-- Named tables and columns over one store. -/
structure Session where
  store : Store := {}
  tables : List (String × Table Handle) := []
  kept : List (String × Handle) := []
  /-- The least severity of the lines that are written. -/
  least : Log.Severity := .warn

/-- A column of a session: one that is kept under a name, or one of a table. -/
inductive Reference
  | kept (name : String)
  | column (table name : String)
  deriving DecidableEq, Repr

namespace Session

/-- All handles in use, once for every place they are used in. -/
def handles (s : Session) : List Handle :=
  (s.tables.flatMap fun t => t.2.columns.map Prod.snd) ++ s.kept.map Prod.snd

/-- The cells of a table. -/
def view (s : Session) (t : Table Handle) : Table Column := t.map s.store.read

/-- The handle a reference stands for. -/
def locate (s : Session) : Reference → Except Error Handle
  | .kept name =>
    match s.kept.lookup name with
    | some h => .ok h
    | none => .error (.undefined name)
  | .column table name =>
    match (s.tables.lookup table).bind fun t => t.column? name with
    | some h => .ok h
    | none => .error (.undefined name)

/-- An association list with one entry replaced or added. -/
def entered {α : Type} (entries : List (String × α)) (name : String) (a : α) : List (String × α) :=
  (name, a) :: entries.filter fun p => p.1 ≠ name

def bindTable (s : Session) (name : String) (t : Table Handle) : Session := { s with tables := entered s.tables name t }

def bindColumn (s : Session) (name : String) (h : Handle) : Session := { s with kept := entered s.kept name h }

/-- Puts a column into a new buffer. -/
def hold (s : Session) (column : Column) : Session × Handle :=
  let (store, h) := s.store.hold column
  ({ s with store }, h)

/-- Puts columns into new buffers. -/
def holdAll (s : Session) : List (String × Column) → Session × List (String × Handle)
  | [] => (s, [])
  | (name, column) :: rest =>
    let (s, h) := s.hold column
    let (s, hs) := s.holdAll rest
    (s, (name, h) :: hs)

/-- Puts the columns of a table into new buffers. -/
def holdTable (s : Session) (t : Table Column) : Session × Table Handle :=
  let (s, columns) := s.holdAll t.columns
  (s, { columns, config := t.config, version := t.version, cached := t.cached })

/-- Writes new contents for a handle that is in use. The buffer is written itself if this is the only use of it;
otherwise the contents get a buffer of their own, and the handle returned stands for that. -/
def overwrite (s : Session) (h : Handle) (column : Column) : Session × Handle :=
  if s.handles.count h ≤ 1 then ({ s with store := s.store.overwrite h column }, h) else s.hold column

/-- Makes a table and keeps it under a name. -/
def create (s : Session) (name : String) (columns : List (String × Column)) (config : Config) :
    Except Error (Session × List Log.Line) := do
  let t ← Table.create columns config
  let (s, th) := s.holdTable t
  return (s.bindTable name th, t.reportCreated s.least)

/-- Fills a kept column with a value. -/
def fillKept (s : Session) (name : String) (value : Cell) : Except Error Session := do
  let h ← s.locate (.kept name)
  let filled ← (s.store.read h).fill value
  let (s, h) := s.overwrite h filled
  return s.bindColumn name h

end Session

end NamedRows
