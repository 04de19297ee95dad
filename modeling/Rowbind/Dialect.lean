/-!
# Placeholder dialects

A **dialect** is the way a driver wants its placeholders written. Two dialects number them, one
names them, and the rest write a bare question mark. `Dialect.placeholder` is the one place where a
placeholder is put into text.

A **registry** keeps the dialect of each driver by the driver's name. `Registry.lookup` answers
`unknown` for a driver that nobody registered; what to do about it is the caller's decision.
-/

namespace Rowbind

/-- **How placeholders are written.** -/
inductive Dialect
  /-- A bare question mark. -/
  | question
  /-- A dollar sign and the ordinal. -/
  | dollar
  /-- An at sign, a `p` and the ordinal. -/
  | atSign
  /-- A colon and the parameter's name. -/
  | named
  /-- The driver is not registered. -/
  | unknown
  deriving DecidableEq, Repr

namespace Dialect

/-- The word that configuration has for a dialect. -/
def name : Dialect → String
  | question => "question"
  | dollar => "dollar"
  | atSign => "at"
  | named => "named"
  | unknown => "unknown"

/-- The dialect that a word of configuration means. -/
def ofName? (word : String) : Option Dialect :=
  [question, dollar, atSign, named, unknown].find? (·.name == word)

theorem ofName_name (d : Dialect) : ofName? d.name = some d := by
  cases d <;> decide

/-- Whether the dialect numbers its placeholders. -/
def isNumbered : Dialect → Bool
  | dollar | atSign => true
  | _ => false

/-- Whether the dialect writes a bare question mark. -/
def isQuestion : Dialect → Bool
  | question | unknown => true
  | _ => false

/-- **The placeholder of the parameter with an ordinal**, counted from one. Only the named dialect
looks at the name, and falls back to the ordinal where there is none. -/
def placeholder (d : Dialect) (ordinal : Nat) (name : List Char) : List Char :=
  match d with
  | question | unknown => ['?']
  | dollar => '$' :: Nat.toDigits 10 ordinal
  | atSign => '@' :: 'p' :: Nat.toDigits 10 ordinal
  | named =>
    ':' :: if name.isEmpty then 'a' :: 'r' :: 'g' :: Nat.toDigits 10 ordinal else name

end Dialect

/-- **The dialect of each registered driver**, by the driver's name. -/
structure Registry where
  entries : List (String × Dialect)
  deriving DecidableEq, Repr

namespace Registry

/-- The drivers known from the start. -/
def defaults : Registry where
  entries :=
    (["mysql", "sqlite", "sqlite3", "clickhouse", "nrmysql"].map (·, .question)) ++
    (["postgres", "postgresql", "pgx", "pq-timeouts", "cloudsqlpostgres", "cockroach"].map
      (·, .dollar)) ++
    (["sqlserver", "mssql", "azuresql"].map (·, .atSign)) ++
    (["oracle", "oci8", "ora", "goracle", "godror"].map (·, .named))

/-- Registers a driver's dialect, in place of an earlier one. -/
def register (r : Registry) (driver : String) (d : Dialect) : Registry where
  entries := (driver, d) :: r.entries.filter (·.1 ≠ driver)

/-- The dialect registered for a driver. -/
def lookup (r : Registry) (driver : String) : Dialect :=
  (r.entries.lookup driver).getD .unknown

theorem lookup_register (r : Registry) (driver : String) (d : Dialect) :
    (r.register driver d).lookup driver = d := by
  simp [register, lookup]

end Registry

end Rowbind
