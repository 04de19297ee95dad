import Rowbind.Rows.Source

/-!
# What a driver offers

A **driver** sends text with placeholders, and a value for each, to a database. It runs statements
directly, prepares them to be run again, and begins transactions, in which statements run until
they are committed or rolled back. A statement either gives rows, handed out by a row source, or
reports how many rows it changed.

A driver is known by name, and the name decides its dialect. Rows that nobody reads on are handed
back to their driver (`dispose`).
-/

namespace Rowbind

/-- **What a statement without rows reports.** -/
structure ExecReport where
  rowsAffected : UInt64
  /-- Zero where there is no such thing. -/
  lastInsertId : UInt64
  deriving DecidableEq, Repr

/-- **How transactions are kept apart.** -/
inductive Isolation
  /-- As the server is set up. -/
  | serverDefault
  | readUncommitted
  | readCommitted
  | repeatableRead
  | serializable
  deriving DecidableEq, Repr

/-- How a level is written in SQL, unless the server's own is meant. -/
def Isolation.sql? : Isolation → Option String
  | serverDefault => none
  | readUncommitted => some "READ UNCOMMITTED"
  | readCommitted => some "READ COMMITTED"
  | repeatableRead => some "REPEATABLE READ"
  | serializable => some "SERIALIZABLE"

/-- **What is asked of a new transaction.** -/
structure TransactionOptions where
  isolation : Isolation := .serverDefault
  readOnly : Bool := false
  deriving DecidableEq, Repr

/-- **A driver**: its rows are `ρ`, its prepared statements `τ`, and its transactions `χ`. -/
class Driver (δ : Type) (ρ τ χ : outParam Type) where
  name : δ → String
  exec (sql : String) (values : List Value) : Step δ ExecReport
  query (sql : String) (values : List Value) : Step δ ρ
  ping : Step δ Unit
  close : Step δ Unit
  /-- Takes back rows that nobody reads on. -/
  dispose (rows : ρ) : δ → δ
  prepare (sql : String) : Step δ τ
  statementExec (t : τ) (values : List Value) : Step δ ExecReport
  statementQuery (t : τ) (values : List Value) : Step δ ρ
  statementClose (t : τ) : Step δ Unit
  begin (options : TransactionOptions) : Step δ χ
  transactionExec (x : χ) (sql : String) (values : List Value) : Step δ ExecReport
  transactionQuery (x : χ) (sql : String) (values : List Value) : Step δ ρ
  commit (x : χ) : Step δ Unit
  rollback (x : χ) : Step δ Unit
  /-- Drops a transaction that was neither committed nor rolled back. -/
  abandon (x : χ) : δ → δ

end Rowbind
