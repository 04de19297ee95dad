import Rowbind.Rows.Source
import Rowbind.Scanner.Plan

/-!
# Scanners

A **scanner** stores the rows of a source into destinations, in one of two ways that exclude each
other. The automatic way (`scan`) takes all rows at once and closes the source, whatever comes of
it. The manual way (`advance`, then `scanRow`) takes rows one by one and leaves closing to the
caller.

A scanner for many rows scans into a list; a scanner for a single row scans into anything else, and
fails where there is no row or more than one. A row that cannot be stored into a list leaves no
element there, and the elements before it stay.

The column list is read once, at the first need.
-/

namespace Rowbind

/-- **How a scanner is used.** -/
inductive ScanMode
  | fresh
  | automatic
  | manual
  deriving DecidableEq, Repr

/-- **A source of rows being scanned.** -/
structure Scanner (ρ : Type) where
  rows : ρ
  options : Options
  /-- Exactly one row is asked for. -/
  single : Bool
  mode : ScanMode := .fresh
  /-- The column list, once read. -/
  columns : Option (List String) := none
  /-- There is a current row, not taken yet. -/
  hasRow : Bool := false
  closed : Bool := false

namespace Scanner

variable {ρ : Type} [RowSource ρ]

/-- **The column list**, read from the source at the first call. -/
def columnNames : Step (Scanner ρ) (List String) := fun s =>
  match s.columns with
  | some columns => (.ok columns, s)
  | none =>
    match RowSource.columns s.rows with
    | (.error e, rows) => (.error e, { s with rows := rows })
    | (.ok columns, rows) =>
      match columnFault? columns with
      | some fault => (.error (.invalidColumns fault), { s with rows := rows })
      | none => (.ok columns, { s with rows := rows, columns := some columns })

/-- **Closes the source**, once. -/
def close : Step (Scanner ρ) Unit := fun s =>
  if s.closed then (.ok (), s)
  else
    let (answer, rows) := RowSource.close s.rows
    (answer, { s with rows := rows, closed := true, hasRow := false })

/-- Stores all rows into a list, up to the first failure. The last component is the list. -/
def fillList (c : Catalog) (plan : RowPlan) (columns : List String) (fresh : Destination)
    (rows : ρ) (items : List Destination) : Except Error Unit × ρ × List Destination :=
  match _ha : RowSource.advance rows with
  | (.error e, rows₁) => (.error e, rows₁, items)
  | (.ok false, rows₁) => (.ok (), rows₁, items)
  | (.ok true, rows₁) =>
    match _ht : RowSource.take rows₁ with
    | (.error e, rows₂) => (.error e, rows₂, items)
    | (.ok values, rows₂) =>
      match store c plan columns values fresh with
      | (.error e, _) => (.error e, rows₂, items)
      | (.ok (), item) => fillList c plan columns fresh rows₂ (items ++ [item])
termination_by RowSource.remaining rows
decreasing_by
  exact Nat.lt_of_le_of_lt (RowSource.remaining_take _ _ _ _ht)
    (RowSource.remaining_advance _ _ _ha)

/-- Stores the only row into a destination. -/
def fillOne (c : Catalog) (plan : RowPlan) (columns : List String) (rows : ρ) (d : Destination) :
    Except Error Unit × ρ × Destination :=
  match RowSource.advance rows with
  | (.error e, rows) => (.error e, rows, d)
  | (.ok false, rows) => (.error .notFound, rows, d)
  | (.ok true, rows) =>
    match RowSource.take rows with
    | (.error e, rows) => (.error e, rows, d)
    | (.ok values, rows) =>
      match store c plan columns values d with
      | (.error e, d) => (.error e, rows, d)
      | (.ok (), d) =>
        match RowSource.advance rows with
        | (.error e, rows) => (.error e, rows, d)
        | (.ok true, rows) => (.error .tooManyRows, rows, d)
        | (.ok false, rows) => (.ok (), rows, d)

/-- Stores all rows, and leaves the source open. -/
def scanRows (c : Catalog) : Step (Scanner ρ × Destination) Unit := fun (s, d) =>
  match s.columnNames with
  | (.error e, s) => (.error e, (s, d))
  | (.ok columns, s) =>
    match d with
    | .list element fresh items =>
      if s.single then (.error (.usage .singleRowIntoList), (s, d))
      else
        match RowPlan.of c s.options columns element with
        | .error e => (.error e, (s, d))
        | .ok plan =>
          let (answer, rows, items) := fillList c plan columns fresh s.rows items
          (answer, ({ s with rows := rows }, .list element fresh items))
    | d =>
      if !s.single then (.error (.usage .manyRowsIntoOne), (s, d))
      else
        match RowPlan.of c s.options columns d.shape with
        | .error e => (.error e, (s, d))
        | .ok plan =>
          let (answer, rows, d) := fillOne c plan columns s.rows d
          (answer, ({ s with rows := rows }, d))

/-- **Scans all rows and closes the source**, whatever comes of the scan. A failure to close is
reported only where the scan succeeded. -/
def scan (c : Catalog) : Step (Scanner ρ × Destination) Unit := fun (s, d) =>
  match s.mode with
  | .automatic => (.error (.usage .alreadyConsumed), (s, d))
  | .manual => (.error (.usage .automaticAfterManual), (s, d))
  | .fresh =>
    let (scanned, s, d) := scanRows c ({ s with mode := .automatic }, d)
    let (closed, s) := s.close
    (match scanned with
      | .ok () => closed
      | .error e => .error e, (s, d))

/-- **Goes on to the next row**, in the manual way. -/
def advance : Step (Scanner ρ) Bool := fun s =>
  match s.mode with
  | .automatic => (.error (.usage .manualAfterAutomatic), s)
  | _ =>
    let s := { s with mode := .manual }
    if s.closed then (.ok false, s)
    else
      match s.columnNames with
      | (.error e, s) => (.error e, s)
      | (.ok _, s) =>
        match RowSource.advance s.rows with
        | (.error e, rows) => (.error e, { s with rows := rows })
        | (.ok found, rows) => (.ok found, { s with rows := rows, hasRow := found })

/-- **Stores the current row**, in the manual way. A destination that does not fit leaves the row
where it is. -/
def scanRow (c : Catalog) : Step (Scanner ρ × Destination) Unit := fun (s, d) =>
  if s.mode ≠ .manual then (.error (.usage .rowBeforeAdvance), (s, d))
  else if !s.hasRow then (.error (.usage .noCurrentRow), (s, d))
  else
    match s.columnNames with
    | (.error e, s) => (.error e, (s, d))
    | (.ok columns, s) =>
      if d.shape = .list then (.error (.usage .oneRowIntoList), (s, d))
      else
        match RowPlan.of c s.options columns d.shape with
        | .error e => (.error e, (s, d))
        | .ok plan =>
          match RowSource.take s.rows with
          | (.error e, rows) => (.error e, ({ s with rows := rows }, d))
          | (.ok values, rows) =>
            let (answer, d) := store c plan columns values d
            (answer, ({ s with rows := rows, hasRow := false }, d))

end Scanner

end Rowbind
