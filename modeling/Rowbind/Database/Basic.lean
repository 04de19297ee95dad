import Rowbind.Database.Handle
import Rowbind.StatementCache.Session

/-!
# Databases

A **database** is a driver in use: with the dialect its placeholders are written in, the options,
and the cache of prepared statements, if there is one. With a cache, every statement is prepared
before it runs, and a prepared statement is used again for the same text; without one, statements
run directly. A transaction does not use the cache.

The dialect is the one that options name, or the one registered for the driver's name, or question
marks.
-/

namespace Rowbind

/-- **A driver in use.** -/
structure Database (δ τ : Type) where
  driver : δ
  dialect : Dialect
  options : Options
  cache : Option (StatementCache τ)

/-- **A transaction of a database.** -/
structure Transaction (χ : Type) where
  connection : χ
  dialect : Dialect
  options : Options

namespace Database

variable {δ ρ τ χ α : Type} [Driver δ ρ τ χ]

/-- The dialect that a driver's placeholders are written in. -/
def dialectFor (registry : Registry) (options : Options) (driver : String) : Dialect :=
  match options.dialect.getD (registry.lookup driver) with
  | .unknown => .question
  | d => d

/-- **A driver taken into use**, keys of cached statements being computed by `keyOf`. -/
def new (registry : Registry) (keyOf : String → UInt64) (driver : δ) (options : Options) :
    Database δ τ where
  driver := driver
  dialect := dialectFor registry options (Driver.name driver)
  options := options
  cache := StatementCache.new? options.statementCacheCapacity keyOf

/-- A step of the driver. -/
def onDriver (x : Step δ α) : Step (Database δ τ) α :=
  x.zoom Database.driver fun d db => { db with driver := d }

/-- A lease on the prepared statement of a text. -/
def lease (cache : StatementCache τ) (sql : String) : Step (Database δ τ) (Lease τ) := fun db =>
  let prepare : Step (CacheSession τ δ) τ :=
    (Driver.prepare sql).zoom CacheSession.world fun d s => { s with world := d }
  let (leased, s) :=
    CacheSession.request (fun t => Driver.statementClose t) sql prepare ⟨cache, db.driver⟩
  (leased, { db with driver := s.world, cache := some s.cache })

/-- Runs a text, directly or through the cache. The lease is given back as soon as the statement
has run. -/
def through (direct : Step δ α) (prepared : τ → Step δ α) (sql : String) :
    Step (Database δ τ) α := fun db =>
  match db.cache with
  | none => onDriver direct db
  | some cache =>
    match lease cache sql db with
    | (.error e, db) => (.error e, db)
    | (.ok l, db) =>
      let (answer, db) := onDriver (prepared l.statement) db
      (answer, { db with cache := db.cache.map (·.release l.entry) })

/-- **The database as a handle.** -/
def handle (db : Database δ τ) : Handle (Database δ τ) ρ where
  dialect := db.dialect
  options := db.options
  send sql values :=
    through (Driver.exec sql values) (fun t => Driver.statementExec t values) sql
  ask sql values :=
    through (Driver.query sql values) (fun t => Driver.statementQuery t values) sql
  dispose rows db := { db with driver := Driver.dispose rows db.driver }

/-- Writes a query with question marks in the database's dialect. -/
def rebind (db : Database δ τ) (query : String) : Except Error String :=
  Template.rebind db.dialect query

def ping : Step (Database δ τ) Unit := onDriver Driver.ping

/-- **Closes the cached statements, then the driver.** -/
def close : Step (Database δ τ) Unit := fun db =>
  let cleared :=
    match db.cache with
    | none => db
    | some cache =>
      let s := CacheSession.clear (fun t => Driver.statementClose t) ⟨cache, db.driver⟩
      { db with driver := s.world, cache := some s.cache }
  onDriver Driver.close cleared

/-- **Begins a transaction.** -/
def begin (options : TransactionOptions) : Step (Database δ τ) (Transaction χ) := do
  let connection ← onDriver (Driver.begin options)
  let db ← Step.get
  return ⟨connection, db.dialect, db.options⟩

end Database

namespace Transaction

variable {δ ρ τ χ : Type} [Driver δ ρ τ χ]

/-- **A transaction as a handle.** -/
def handle (x : Transaction χ) : Handle (Database δ τ) ρ where
  dialect := x.dialect
  options := x.options
  send sql values := Database.onDriver (Driver.transactionExec x.connection sql values)
  ask sql values := Database.onDriver (Driver.transactionQuery x.connection sql values)
  dispose rows db := { db with driver := Driver.dispose rows db.driver }

def commit (x : Transaction χ) : Step (Database δ τ) Unit :=
  Database.onDriver (Driver.commit x.connection)

def rollback (x : Transaction χ) : Step (Database δ τ) Unit :=
  Database.onDriver (Driver.rollback x.connection)

/-- Drops a transaction that was neither committed nor rolled back. -/
def abandon (x : Transaction χ) (db : Database δ τ) : Database δ τ :=
  { db with driver := Driver.abandon x.connection db.driver }

end Transaction

end Rowbind
