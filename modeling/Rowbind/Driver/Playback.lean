import Rowbind.Driver.Interface
import Rowbind.Rows.Faulty

/-!
# A driver that plays back

A driver with no database behind it: every call is written into a log before anything else, and is
then answered from what was laid in. Statements without rows take the next report, queries the next
rows, and where nothing is left there is one row changed, or rows without columns. Any call can be
given a fault, and preparing can be made to fail so many times at first.

The closings of rows are written into the log when the rows are handed back.
-/

namespace Rowbind

/-- **What the log of a playback holds.** -/
inductive PlaybackEvent where
  | exec (sql : String) (values : List Value)
  | query (sql : String) (values : List Value)
  | prepare (sql : String)
  | begin (isolation : Option String) (readOnly : Bool)
  | ping
  | close
  | transactionExec (sql : String) (values : List Value)
  | transactionQuery (sql : String) (values : List Value)
  | commit
  | rollback
  | statementExec (sql : String) (values : List Value)
  | statementQuery (sql : String) (values : List Value)
  | statementClose (sql : String)
  | rowsClose

/-- **The faults of a playback.** -/
structure PlaybackFaults where
  ping : Option Error := none
  close : Option Error := none
  begin : Option Error := none
  commit : Option Error := none
  rollback : Option Error := none
  statementClose : Option Error := none
  /-- So many preparations fail at first. -/
  preparations : Nat := 0
  deriving DecidableEq, Repr

/-- **A driver that plays back.** -/
structure Playback where
  name : String
  reports : List (Except Error ExecReport) := []
  results : List (Except Error FaultyRows) := []
  faults : PlaybackFaults := {}
  log : List PlaybackEvent := []

/-- A prepared statement of a playback. -/
structure PlaybackStatement where
  sql : String
  deriving DecidableEq, Repr

/-- A transaction of a playback. -/
structure PlaybackTransaction where
  deriving DecidableEq, Repr

namespace Playback

/-- Writes into the log. -/
def note (e : PlaybackEvent) (p : Playback) : Playback := { p with log := p.log ++ [e] }

/-- A call with no answer but its fault. -/
def call (e : PlaybackEvent) (fault : PlaybackFaults → Option Error) : Step Playback Unit :=
  fun p => ((fault p.faults).elim (.ok ()) .error, p.note e)

/-- A statement without rows. -/
def report (e : PlaybackEvent) : Step Playback ExecReport := fun p =>
  match p.reports with
  | [] => (.ok ⟨1, 0⟩, p.note e)
  | r :: rs => (r, { p.note e with reports := rs })

/-- A query. -/
def result (e : PlaybackEvent) : Step Playback FaultyRows := fun p =>
  match p.results with
  | [] => (.ok { rows := { columns := [], rows := [] }, faults := {} }, p.note e)
  | r :: rs => (r, { p.note e with results := rs })

/-- Prepares a statement. -/
def prepare (sql : String) : Step Playback PlaybackStatement := fun p =>
  let p := p.note (.prepare sql)
  match p.faults.preparations with
  | 0 => (.ok ⟨sql⟩, p)
  | n + 1 => (.error (.driver "prepare failed"), { p with faults.preparations := n })

instance : Driver Playback FaultyRows PlaybackStatement PlaybackTransaction where
  name := Playback.name
  exec sql values := report (.exec sql values)
  query sql values := result (.query sql values)
  ping := call .ping (·.ping)
  close := call .close (·.close)
  dispose rows p := { p with log := p.log ++ List.replicate rows.closings .rowsClose }
  prepare := prepare
  statementExec t values := report (.statementExec t.sql values)
  statementQuery t values := result (.statementQuery t.sql values)
  statementClose t := call (.statementClose t.sql) (·.statementClose)
  begin o := fun p =>
    let (answer, p) := call (.begin o.isolation.sql? o.readOnly) (·.begin) p
    (answer.map fun _ => ⟨⟩, p)
  transactionExec _ sql values := report (.transactionExec sql values)
  transactionQuery _ sql values := result (.transactionQuery sql values)
  commit _ := call .commit (·.commit)
  rollback _ := call .rollback (·.rollback)
  abandon _ := id

end Playback

end Rowbind
