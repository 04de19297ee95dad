import Rowbind.MySql.Server

/-!
# A pool of MySQL connections

A **pool** lends connections and takes them back; a lent connection is an idle one, or a new one
where none is idle. A connection that is not to be used again is **detached** instead of taken back,
which closes it.

Statements run on a connection lent for that one statement, and return all their rows at once.
A **transaction** keeps its connection from its beginning to its commit or rollback. When that
fails, or the transaction is dropped unfinished, its connection is detached: the server then rolls
back by itself.

A closed pool lends nothing.
-/

namespace Rowbind.MySql

/-- **A pool of connections to a server.** -/
structure Pool (σ : Type) where
  server : σ
  idle : List Connection := []
  /-- Connections closed for good. -/
  detached : List Connection := []
  /-- How many connections were ever opened: the next one's number. -/
  opened : Nat := 0
  closed : Bool := false

/-- **A transaction**, with its connection until it is finished. -/
structure Transaction where
  connection : Option Connection
  deriving DecidableEq, Repr

/-- **A prepared statement.** It may run on any connection, since each knows its text anew. -/
structure Statement where
  sql : String
  deriving DecidableEq, Repr

namespace Pool

variable {σ α : Type}

/-- **Lends a connection.** -/
def acquire : Step (Pool σ) Connection := fun p =>
  if p.closed then (.error (.database .other), p)
  else
    match p.idle with
    | c :: idle => (.ok c, { p with idle := idle })
    | [] => (.ok ⟨p.opened⟩, { p with opened := p.opened + 1 })

/-- Takes a connection back. -/
def putBack (c : Connection) (p : Pool σ) : Pool σ := { p with idle := p.idle ++ [c] }

/-- Closes a connection instead of taking it back. -/
def detach (c : Connection) (p : Pool σ) : Pool σ := { p with detached := p.detached ++ [c] }

/-- A step of the server. -/
def onServer (x : Step σ α) : Step (Pool σ) α :=
  x.zoom Pool.server fun s p => { p with server := s }

/-- **A step on a connection lent for it**, and taken back whatever comes of the step. -/
def withConnection (f : Connection → Step (Pool σ) α) : Step (Pool σ) α := fun p =>
  match acquire p with
  | (.error e, p) => (.error e, p)
  | (.ok c, p) =>
    let (answer, p) := f c p
    (answer, p.putBack c)

variable [Server σ]

/-- Runs a text with values: they are bound, the text is prepared, and the statement runs. -/
def runOn (c : Connection) (sql : String) (values : List Value) : Step (Pool σ) Outcome := do
  let bound ← .ofExcept (bindAll values)
  let _ ← onServer (Server.prepare c sql)
  onServer (Server.execute c sql bound)

/-- **Runs a statement for its report.** Rows change nothing. -/
def execOn (c : Connection) (sql : String) (values : List Value) : Step (Pool σ) ExecReport := do
  match ← runOn c sql values with
  | .report r => return r
  | .rows .. => return ⟨0, 0⟩

/-- **Runs a statement for its rows.** Where there are none to tell the columns, the server is asked
for them. -/
def fetchOn (c : Connection) (sql : String) (values : List Value) :
    Step (Pool σ) (List String × List (List Value)) := do
  match ← runOn c sql values with
  | .rows columns (row :: rows) =>
    return (columns.map (·.name), ← .ofExcept (decodeRows columns (row :: rows)))
  | _ =>
    let columns ← onServer (Server.prepare c sql)
    return (columns.map (·.name), [])

def exec (sql : String) (values : List Value) : Step (Pool σ) ExecReport :=
  withConnection fun c => execOn c sql values

def query (sql : String) (values : List Value) : Step (Pool σ) (List String × List (List Value)) :=
  withConnection fun c => fetchOn c sql values

def ping : Step (Pool σ) Unit :=
  withConnection fun c => onServer (Server.ping c)

/-- **Closes the pool**, and with it every idle connection. -/
def close : Step (Pool σ) Unit :=
  Step.modify fun p => { p with closed := true, idle := [], detached := p.detached ++ p.idle }

/-- **Prepares a statement**, which finds out whether the server takes it. -/
def prepare (sql : String) : Step (Pool σ) Statement :=
  withConnection fun c => do
    let _ ← onServer (Server.prepare c sql)
    return ⟨sql⟩

/-- What is sent to begin a transaction, in order. -/
def openings (o : TransactionOptions) : List String :=
  (o.isolation.sql?.toList.map ("SET TRANSACTION ISOLATION LEVEL " ++ ·)) ++
    [if o.readOnly then "START TRANSACTION READ ONLY" else "START TRANSACTION"]

/-- Sends texts one after the other, up to the first that fails. -/
def commandAll (c : Connection) : List String → Step (Pool σ) Unit
  | [] => pure ()
  | sql :: rest => do
    onServer (Server.command c sql)
    commandAll c rest

/-- **Begins a transaction.** Where beginning fails, the connection goes back to the pool. -/
def begin (o : TransactionOptions) : Step (Pool σ) Transaction := fun p =>
  match acquire p with
  | (.error e, p) => (.error e, p)
  | (.ok c, p) =>
    match commandAll c (openings o) p with
    | (.ok (), p) => (.ok ⟨some c⟩, p)
    | (.error e, p) => (.error e, p.putBack c)

end Pool

namespace Transaction

variable {σ α : Type}

/-- The connection of an unfinished transaction. -/
def connected (x : Transaction) : Step (Pool σ) Connection :=
  match x.connection with
  | some c => pure c
  | none => .fail (.usage .transactionFinished)

/-- **Drops a transaction**, whose connection is closed if it was not finished. -/
def abandon (x : Transaction) (p : Pool σ) : Pool σ :=
  x.connection.elim p p.detach

variable [Server σ]

def exec (x : Transaction) (sql : String) (values : List Value) : Step (Pool σ) ExecReport := do
  Pool.execOn (← x.connected) sql values

def query (x : Transaction) (sql : String) (values : List Value) :
    Step (Pool σ) (List String × List (List Value)) := do
  Pool.fetchOn (← x.connected) sql values

/-- **Finishes a transaction**, for good. Its connection goes back to the pool if the server takes
the last command, and is closed if it does not. -/
def finish (sql : String) : Step (Transaction × Pool σ) Unit := fun (x, p) =>
  match x.connection with
  | none => (.error (.usage .transactionFinished), (x, p))
  | some c =>
    match Pool.onServer (Server.command c sql) p with
    | (.ok (), p) => (.ok (), (⟨none⟩, p.putBack c))
    | (.error e, p) => (.error e, (⟨none⟩, p.detach c))

def commit : Step (Transaction × Pool σ) Unit := finish "COMMIT"

def rollback : Step (Transaction × Pool σ) Unit := finish "ROLLBACK"

end Transaction

/-- Rows fetched at once, in memory. -/
def buffered (rows : List String × List (List Value)) : BufferedRows :=
  { columns := rows.1, rows := rows.2 }

instance {σ : Type} [Server σ] : Driver (Pool σ) BufferedRows Statement Transaction where
  name _ := "mysql"
  exec := Pool.exec
  query sql values := buffered <$> Pool.query sql values
  ping := Pool.ping
  close := Pool.close
  dispose _ := id
  prepare := Pool.prepare
  statementExec t values := Pool.exec t.sql values
  statementQuery t values := buffered <$> Pool.query t.sql values
  statementClose _ := pure ()
  begin := Pool.begin
  transactionExec := Transaction.exec
  transactionQuery x sql values := buffered <$> x.query sql values
  commit x := Transaction.commit.zoom (fun p => (x, p)) fun xp _ => xp.2
  rollback x := Transaction.rollback.zoom (fun p => (x, p)) fun xp _ => xp.2
  abandon := Transaction.abandon

end Rowbind.MySql
