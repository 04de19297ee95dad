import Rowbind.Binding.Query
import Rowbind.Driver.Interface
import Rowbind.Scanner.Basic

/-!
# What statements run on

A database and a transaction take the same statements. A **handle** is what they have in common: a
dialect, options, and the two ways of sending text and values. On it, a template with its arguments
is bound, sent, and its rows are scanned.

A template that cannot be bound is never sent.
-/

namespace Rowbind

/-- **What statements run on.** -/
structure Handle (σ ρ : Type) where
  dialect : Dialect
  options : Options
  send : String → List Value → Step σ ExecReport
  ask : String → List Value → Step σ ρ
  dispose : ρ → σ → σ

namespace Handle

variable {σ ρ : Type}

/-- Binds a template without sending it. -/
def compile (h : Handle σ ρ) (c : Catalog) (template : String) (arguments : List Argument) :
    Except Error Bound :=
  Bound.compile c h.dialect template arguments h.options

/-- **Runs a statement without rows.** -/
def exec (h : Handle σ ρ) (c : Catalog) (template : String) (arguments : List Argument) :
    Step σ ExecReport := do
  let bound ← .ofExcept (h.compile c template arguments)
  h.send bound.sql bound.values

/-- **Runs a query**, and answers with a scanner for its rows. -/
def query (h : Handle σ ρ) (c : Catalog) (single : Bool) (template : String)
    (arguments : List Argument) : Step σ (Scanner ρ) := do
  let bound ← .ofExcept (h.compile c template arguments)
  let rows ← h.ask bound.sql bound.values
  return { rows := rows, options := h.options, single := single }

variable [RowSource ρ]

/-- Runs a query and scans its rows into a destination, all of them or a single one. -/
def scanInto (h : Handle σ ρ) (c : Catalog) (single : Bool) (d : Destination) (template : String)
    (arguments : List Argument) : Step σ Destination := do
  let scanner ← h.query c single template arguments
  let (answer, s, d) := Scanner.scan c (scanner, d)
  Step.modify (h.dispose s.rows)
  .ofExcept (answer.map fun _ => d)

/-- **The rows of a query**, a list of elements like the given one. -/
def select (h : Handle σ ρ) (c : Catalog) (element : Destination) :
    String → List Argument → Step σ Destination :=
  h.scanInto c false (.listOf element)

/-- **The only row of a query**, stored into a new destination. -/
def get (h : Handle σ ρ) (c : Catalog) (d : Destination) :
    String → List Argument → Step σ Destination :=
  h.scanInto c true d

end Handle

end Rowbind
