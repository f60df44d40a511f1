import NamedRows.Externals.Standard
import NamedRows.Session.Basic

/-!
# Requests to a session

What can be asked of a session about one of its tables (`Request`), and what comes of it (`Session.perform`). Operations
are performed on the cells of the table; their changes are then carried over to the handles. Columns that come out of a
table unchanged keep their buffers: whole columns and tables of them, copies, and columns assigned from elsewhere. In a
program the functions from outside are those of `NamedRows.Externals.Standard`.
-/

namespace NamedRows

/-- A request about one table of a session. -/
inductive Request
  /-- An operation; what is read may be kept under a name. -/
  | operate (op : Operation) (keep : Option String)
  /-- A column is assigned from another place of the session. -/
  | assignFrom (name : String) (ref : Reference)
  /-- A copy of the table. -/
  | copy (keep : Option String)
  /-- A new table of the same columns with another configuration. -/
  | rebuild (config : Config) (keep : Option String)
  /-- The cells of a column. -/
  | contents (ref : Reference)
  /-- Whether two columns are in one buffer. -/
  | shares (a b : Reference)

namespace Session

/-- What a question reads that is in the buffers of the table already. -/
def sharedReading? (t : Table Handle) : Query → Option (Reading Handle)
  | .get (.one text) => (t.column? text).map .column
  | .get (.many names) | .cols names => (t.cols names).toOption.map .table
  | .rows .all => some (.table (t.derived t.columns))
  | _ => none

/-- Keeps a reading under a name; a single cell is not kept. -/
def keepReading (s : Session) (name : String) : Reading Handle → Session
  | .cell _ => s
  | .column h => s.bindColumn name h
  | .table t => s.bindTable name t

/-- Puts a reading into new buffers. -/
def holdReading (s : Session) : Reading Column → Session × Reading Handle
  | .cell c => (s, .cell c)
  | .column c => let (s, h) := s.hold c; (s, .column h)
  | .table t => let (s, th) := s.holdTable t; (s, .table th)

/-- Keeps what a question to a table has read, if it is to be kept. -/
def keepAnswer (s : Session) (t : Table Handle) (keep : Option String) (op : Operation) (answer : Except Error Answer) :
    Session :=
  match keep, op, answer with
  | some name, .query q, .ok (.reading r) =>
    match sharedReading? t q with
    | some r => s.keepReading name r
    | none => let (s, r) := s.holdReading r; s.keepReading name r
  | _, _, _ => s

/-- Carries a change of a table's cells over to its handles. An assigned column gets a new buffer; other writes go to
the buffer that is there. -/
def settle (s : Session) (t : Table Handle) (op : Operation) : Change Column → Session × Change Handle
  | .keep => (s, .keep)
  | .cache d => (s, .cache d)
  | .touch name => (s, .touch name)
  | .remove name => (s, .remove name)
  | .order names => (s, .order names)
  | .put name column =>
    match op, t.column? name with
    | .write (.broadcast _ _), some h | .write (.fill _ _), some h =>
      let (s, h) := s.overwrite h column
      (s, .put name h)
    | _, _ =>
      let (s, h) := s.hold column
      (s, .put name h)

variable [Externals]

/-- Performs an operation on a table. -/
def operate (s : Session) (on : String) (t : Table Handle) (op : Operation) (keep : Option String) :
    Except Error Answer × Session × List Log.Line :=
  let cells := s.view t
  let answer := cells.answer op
  let (s', change) := s.settle t op (cells.change op)
  let t' := t.apply change
  (answer, (s'.bindTable on t').keepAnswer t' keep op answer, cells.lines s.least op)

/-- Assigns a column that another handle stands for. -/
def assignFrom (s : Session) (on : String) (t : Table Handle) (name : String) (h : Handle) :
    Except Error Answer × Session × List Log.Line :=
  let cells := s.view t
  let op := Operation.write (.assign name (s.store.read h))
  (cells.answer op, s.bindTable on (t.apply ((cells.change op).map fun _ => h)), cells.lines s.least op)

/-- Keeps a table under a name, if it is to be kept. -/
def keepTable (s : Session) (keep : Option String) (t : Table Handle) : Session :=
  match keep with
  | some name => s.bindTable name t
  | none => s

/-- Makes a table of the columns of another one, in the same buffers. -/
def rebuild (s : Session) (t : Table Handle) (config : Config) (keep : Option String) :
    Except Error Answer × Session × List Log.Line :=
  match Table.create (s.view t).columns config with
  | .error e => (.error e, s, [])
  | .ok cells =>
    (.ok (.reading (.table cells)), s.keepTable keep { columns := t.columns, config }, cells.reportCreated s.least)

/-- What comes of a request about a table: the answer, the session afterwards, and the lines written. -/
def perform (s : Session) (on : String) (r : Request) : Except Error Answer × Session × List Log.Line :=
  match s.tables.lookup on with
  | none => (.error (.undefined on), s, [])
  | some t =>
    match r with
    | .operate op keep => s.operate on t op keep
    | .assignFrom name ref =>
      match s.locate ref with
      | .ok h => s.assignFrom on t name h
      | .error e => (.error e, s, [])
    | .copy keep => (.ok (.reading (.table (s.view t))), s.keepTable keep t, [])
    | .rebuild config keep => s.rebuild t config keep
    | .contents ref => ((s.locate ref).map fun h => .column (some (s.store.read h)), s, [])
    | .shares a b => (do return .flag ((← s.locate a) = (← s.locate b)), s, [])

end Session

end NamedRows
