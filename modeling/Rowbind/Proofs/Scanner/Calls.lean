import Rowbind.Proofs.Scanner.Source

/-!
# What a scanner asks of its source

A **recorded** source does what its rows do, and writes down every call with its answer
(`Recorded`). A scanner does not look behind its source, so a scanner of recorded rows is the
scanner of the rows themselves, with a record beside it (`ScannerUse.runAll_recorded`).

What an operation asks is said by what it adds to the record (`Asks`). Reading the columns asks for
them at most. Scanning rows asks for columns, advances and values, and closes nothing
(`asks_scanRows`). Closing is the only operation that asks for a close, and a scan asks for one at
its end.
-/

namespace Rowbind

/-- **A call to a row source**, with its answer. -/
inductive RowCall
  | columns (answer : Except Error (List String))
  | advance (answer : Except Error Bool)
  | take (answer : Except Error (List Value))
  | close (answer : Except Error Unit)

namespace RowCall

/-- Whether a call closes the source. -/
def isClose : RowCall → Bool
  | close _ => true
  | _ => false

/-- Whether a call asks for the columns. -/
def isColumns : RowCall → Bool
  | columns _ => true
  | _ => false

/-- Whether a call asks for the next row, or for its values. -/
def isRow : RowCall → Bool
  | advance _ | take _ => true
  | _ => false

/-- A call that asks for the columns asks for nothing else. -/
theorem eq_columns {call : RowCall} (h : call.isColumns = true) :
    ∃ answer, call = .columns answer := by
  cases call with
  | columns answer => exact ⟨answer, rfl⟩
  | _ => cases h

end RowCall

/-- **A row source and the calls to it**, the latest last. -/
structure Recorded (ρ : Type) where
  rows : ρ
  calls : List RowCall := []

namespace Recorded

variable {ρ α : Type}

/-- A call, written down behind the earlier ones. -/
def record (call : Except Error α → RowCall) (x : Step ρ α) : Step (Recorded ρ) α := fun r =>
  ((x r.rows).1, { rows := (x r.rows).2, calls := r.calls ++ [call (x r.rows).1] })

/-- What a recorded call answers, its rows answer. -/
theorem record_eq {call : Except Error α → RowCall} {x : Step ρ α} {r r' : Recorded ρ}
    {answer : Except Error α} (h : record call x r = (answer, r')) :
    x r.rows = (answer, r'.rows) := by
  obtain ⟨rfl, rfl⟩ := Prod.mk.inj h
  rfl

instance [RowSource ρ] : RowSource (Recorded ρ) where
  columns := record .columns RowSource.columns
  advance := record .advance RowSource.advance
  take := record .take RowSource.take
  close := record .close RowSource.close
  remaining r := RowSource.remaining r.rows
  remaining_advance _ _ h := RowSource.remaining_advance _ _ (record_eq h)
  remaining_take _ _ _ h := RowSource.remaining_take _ _ _ (record_eq h)

/-- A recorded source steps as its rows do. -/
theorem alike [RowSource ρ] : RowSource.Alike (Recorded.rows : Recorded ρ → ρ) where
  columns _ := rfl
  advance _ := rfl
  take _ := rfl
  close _ := rfl

/-- How many calls have closed the source. -/
def closings (r : Recorded ρ) : Nat := r.calls.countP RowCall.isClose

/-- **Whether only such calls are made** between two states of a source. -/
def Asks (P : RowCall → Prop) (r r' : Recorded ρ) : Prop :=
  ∃ calls, r'.calls = r.calls ++ calls ∧ ∀ call ∈ calls, P call

section Asks

variable {P Q : RowCall → Prop} {r r₁ r₂ : Recorded ρ}

theorem Asks.refl (r : Recorded ρ) : Asks P r r :=
  ⟨[], (List.append_nil _).symm, fun _ h => absurd h List.not_mem_nil⟩

theorem Asks.trans (h : Asks P r r₁) (h' : Asks P r₁ r₂) : Asks P r r₂ := by
  obtain ⟨calls, hcalls, hP⟩ := h
  obtain ⟨calls', hcalls', hP'⟩ := h'
  refine ⟨calls ++ calls', by rw [hcalls', hcalls, List.append_assoc], ?_⟩
  intro call hmem
  rcases List.mem_append.mp hmem with hmem | hmem
  · exact hP call hmem
  · exact hP' call hmem

theorem Asks.mono (h : Asks P r r₁) (hPQ : ∀ call, P call → Q call) : Asks Q r r₁ := by
  obtain ⟨calls, hcalls, hP⟩ := h
  exact ⟨calls, hcalls, fun call hmem => hPQ call (hP call hmem)⟩

/-- Asking for the columns closes nothing. -/
theorem Asks.of_columns (h : Asks (RowCall.isColumns ·) r r₁) :
    Asks (RowCall.isClose · = false) r r₁ :=
  h.mono fun call hcall => by
    obtain ⟨answer, rfl⟩ := RowCall.eq_columns hcall
    rfl

/-- Asking for rows closes nothing. -/
theorem Asks.of_rows (h : Asks (RowCall.isRow ·) r r₁) :
    Asks (RowCall.isClose · = false) r r₁ :=
  h.mono fun call hcall => by cases call with
    | advance answer => rfl
    | take answer => rfl
    | _ => cases hcall

/-- One recorded call. -/
theorem asks_record {call : Except Error α → RowCall} {x : Step ρ α} {answer : Except Error α}
    (h : record call x r = (answer, r₁)) (hP : P (call answer)) : Asks P r r₁ := by
  obtain ⟨rfl, rfl⟩ := Prod.mk.inj h
  refine ⟨[call (x r.rows).1], rfl, ?_⟩
  intro c hmem
  rw [List.mem_singleton.mp hmem]
  exact hP

/-- Calls that close nothing leave the number of closings. -/
theorem Asks.closings_eq (h : Asks (RowCall.isClose · = false) r r₁) :
    r₁.closings = r.closings := by
  obtain ⟨calls, hcalls, hopen⟩ := h
  have hnone : calls.countP RowCall.isClose = 0 := by
    rw [List.countP_eq_zero]
    exact fun call hmem => Bool.eq_false_iff.mp (hopen call hmem)
  rw [closings, hcalls, List.countP_append, hnone, Nat.add_zero, closings]

end Asks

end Recorded

namespace Scanner

open Recorded

variable {ρ : Type} [RowSource ρ]

/-- Reading the column list asks for the columns at most. -/
theorem asks_columnNames (s : Scanner (Recorded ρ)) :
    Asks (RowCall.isColumns ·) s.rows s.columnNames.2.rows := by
  unfold columnNames
  split
  · exact .refl _
  · split
    · rename_i e rows hcolumns
      exact asks_record hcolumns rfl
    · rename_i columns rows hcolumns
      split <;> exact asks_record hcolumns rfl

/-- Where the columns are read, columns are all that is asked for. -/
theorem asks_of_columnNames {s s₁ : Scanner (Recorded ρ)} {answer : Except Error (List String)}
    (h : s.columnNames = (answer, s₁)) : Asks (RowCall.isColumns ·) s.rows s₁.rows := by
  have hasks := asks_columnNames s
  rwa [h] at hasks

theorem asks_advance {rows rows' : Recorded ρ} {answer : Except Error Bool}
    (h : RowSource.advance rows = (answer, rows')) : Asks (RowCall.isRow ·) rows rows' :=
  asks_record h rfl

theorem asks_take {rows rows' : Recorded ρ} {answer : Except Error (List Value)}
    (h : RowSource.take rows = (answer, rows')) : Asks (RowCall.isRow ·) rows rows' :=
  asks_record h rfl

/-- Scanning into a list asks for rows. The induction is on the rows taken. -/
theorem asks_fillList (c : Catalog) (plan : RowPlan) (columns : List String)
    (fresh : Destination) (rows : Recorded ρ) (items : List Destination) :
    Asks (RowCall.isRow ·) rows (fillList c plan columns fresh rows items).2.1 := by
  fun_induction fillList c plan columns fresh rows items with
  | case1 rows items e rows₁ ha => exact asks_advance ha
  | case2 rows items rows₁ ha => exact asks_advance ha
  | case3 rows items rows₁ ha e rows₂ ht => exact (asks_advance ha).trans (asks_take ht)
  | case4 rows items rows₁ ha values rows₂ ht e d hs =>
    exact (asks_advance ha).trans (asks_take ht)
  | case5 rows items rows₁ ha values rows₂ ht item hs ih =>
    exact ((asks_advance ha).trans (asks_take ht)).trans ih

/-- A row that is stored is asked for. -/
theorem StoresNext.asks {c : Catalog} {plan : RowPlan} {columns : List String}
    {rows rows₁ : Recorded ρ} {d d₁ : Destination}
    (h : StoresNext c plan columns rows rows₁ d d₁) : Asks (RowCall.isRow ·) rows rows₁ := by
  obtain ⟨between, values, hadvance, htake, -⟩ := h
  exact (asks_advance hadvance).trans (asks_take htake)

/-- Scanning a single row asks for rows. -/
theorem asks_fillOne (c : Catalog) (plan : RowPlan) (columns : List String) (rows : Recorded ρ)
    (d : Destination) : Asks (RowCall.isRow ·) rows (fillOne c plan columns rows d).2.1 := by
  have hfills := fillsOne c plan columns rows d
  generalize fillOne c plan columns rows d = result at hfills ⊢
  cases hfills with
  | failed hadvance => exact asks_advance hadvance
  | none hadvance => exact asks_advance hadvance
  | untaken hadvance htake => exact (asks_advance hadvance).trans (asks_take htake)
  | unstored hadvance htake => exact (asks_advance hadvance).trans (asks_take htake)
  | failedBehind hstores hagain => exact hstores.asks.trans (asks_advance hagain)
  | many hstores hagain => exact hstores.asks.trans (asks_advance hagain)
  | one hstores hagain => exact hstores.asks.trans (asks_advance hagain)

/-- **Scanning all rows closes nothing**: it asks for columns and rows. -/
theorem asks_scanRows (c : Catalog) (s : Scanner (Recorded ρ)) (d : Destination) :
    Asks (RowCall.isClose · = false) s.rows (scanRows c (s, d)).2.1.rows := by
  have hcolumns := (asks_columnNames s).of_columns
  unfold scanRows
  simp only
  generalize s.columnNames = read at hcolumns ⊢
  obtain ⟨e | columns, s₁⟩ := read
  · exact hcolumns
  cases d with
  | list element fresh items =>
    simp only
    split
    · exact hcolumns
    split
    · exact hcolumns
    · exact hcolumns.trans (asks_fillList c _ columns fresh s₁.rows items).of_rows
  | _ =>
    simp only
    split
    · exact hcolumns
    split
    · exact hcolumns
    · exact hcolumns.trans (asks_fillOne c _ columns s₁.rows _).of_rows

/-- Going on to the next row closes nothing. -/
theorem asks_advanceRow (s : Scanner (Recorded ρ)) :
    Asks (RowCall.isClose · = false) s.rows s.advance.2.rows := by
  have hadvance := s.advances
  generalize s.advance = result at hadvance ⊢
  cases hadvance with
  | refused => exact .refl _
  | closed => exact .refl _
  | unread _ _ _ hread => exact (asks_of_columnNames hread).of_columns
  | failed _ _ hread hadvance =>
    exact (asks_of_columnNames hread).of_columns.trans (asks_advance hadvance).of_rows
  | went _ _ hread hadvance =>
    exact (asks_of_columnNames hread).of_columns.trans (asks_advance hadvance).of_rows

/-- Storing the current row closes nothing. -/
theorem asks_scanRow (c : Catalog) (s : Scanner (Recorded ρ)) (d : Destination) :
    Asks (RowCall.isClose · = false) s.rows (scanRow c (s, d)).2.1.rows := by
  have hstores := storesRow c s d
  generalize scanRow c (s, d) = result at hstores ⊢
  cases hstores with
  | refused => exact .refl _
  | unread _ _ _ hread => exact (asks_of_columnNames hread).of_columns
  | unmapped _ _ hread => exact (asks_of_columnNames hread).of_columns
  | failed _ _ hread _ htake =>
    exact (asks_of_columnNames hread).of_columns.trans (asks_take htake).of_rows
  | stored _ _ hread _ htake =>
    exact (asks_of_columnNames hread).of_columns.trans (asks_take htake).of_rows

/-- **A scanner newly made**, of recorded rows. -/
def start (rows : ρ) (o : Options) (single : Bool) : Scanner (Recorded ρ) where
  rows := { rows := rows }
  options := o
  single := single

end Scanner

/-- What one use after the other leaves of a scanner. -/
def ScannerUse.runAll {ρ : Type} [RowSource ρ] (c : Catalog) (s : Scanner ρ)
    (uses : List ScannerUse) : Scanner ρ :=
  uses.foldl (fun s u => u.run c s) s

/-- **A scanner of recorded rows is the scanner of the rows**, with a record beside it. -/
theorem ScannerUse.runAll_recorded {ρ : Type} [RowSource ρ] (c : Catalog)
    (s : Scanner (Recorded ρ)) (uses : List ScannerUse) :
    (ScannerUse.runAll c s uses).map Recorded.rows =
      ScannerUse.runAll c (s.map Recorded.rows) uses := by
  induction uses generalizing s with
  | nil => rfl
  | cons u uses ih =>
    rw [runAll, List.foldl_cons, ← runAll, ih, ← ScannerUse.run_map Recorded.alike]
    rfl

end Rowbind
