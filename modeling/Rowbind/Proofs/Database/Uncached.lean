import Rowbind.Database.Handle
import Rowbind.Proofs.Scanner.Source

/-!
# The capacity concerns the cache alone

Of all that options settle, the capacity of the cache is read when a database is made, and never
again: a template is bound, and a scanner stores rows, as if no statement were kept
(`Bound.compile_uncached`, `Scanner.scan_uncached`, `ScannerUse.run_uncached`).
-/

namespace Rowbind

/-- **The options, but that no statement is kept.** -/
def Options.uncached (o : Options) : Options := { o with statementCacheCapacity := 0 }

/-- A scanner with the options, but that no statement is kept. -/
def Scanner.uncached {ρ : Type} (s : Scanner ρ) : Scanner ρ :=
  { s with options := s.options.uncached }

/-! ## Binding -/

/-- Resolving names. The induction is on the names. -/
theorem resolveFrom_uncached (o : Options) (sources : List Source) (share position : Nat)
    (names : List String) :
    resolveFrom o.uncached sources share position names =
      resolveFrom o sources share position names := by
  induction names generalizing position with
  | nil => rfl
  | cons name names ih =>
    rw [resolveFrom, resolveFrom, ih]
    rfl

theorem bindSources_uncached (d : Dialect) (template : String) (o : Options)
    (sources : List Source) :
    bindSources d template o.uncached sources = bindSources d template o sources := by
  unfold bindSources
  simp only [resolveFrom_uncached]

theorem bindNamed_uncached (c : Catalog) (d : Dialect) (template : String) (argument : Argument)
    (o : Options) :
    bindNamed c d template argument o.uncached = bindNamed c d template argument o := by
  have hsources : argument.sources? c o.uncached = argument.sources? c o := rfl
  unfold bindNamed
  simp only [hsources, bindSources_uncached]

/-- **Binding does not read the capacity.** -/
theorem Bound.compile_uncached (c : Catalog) (d : Dialect) (template : String)
    (arguments : List Argument) (o : Options) :
    compile c d template arguments o.uncached = compile c d template arguments o := by
  unfold compile
  simp only [bindNamed_uncached]

/-! ## Scanning -/

theorem RowPlan.of_uncached (c : Catalog) (o : Options) (columns : List String) (shape : Shape) :
    RowPlan.of c o.uncached columns shape = RowPlan.of c o columns shape := by
  cases shape <;> rfl

namespace Scanner

variable {ρ : Type} [RowSource ρ]

theorem columnNames_uncached (s : Scanner ρ) :
    s.uncached.columnNames = (s.columnNames.1, s.columnNames.2.uncached) := by
  obtain ⟨rows, options, single, mode, columns, hasRow, closed⟩ := s
  simp only [columnNames, uncached]
  cases columns with
  | some columns => rfl
  | none =>
    rcases RowSource.columns rows with ⟨e | columns, rows⟩
    · rfl
    · simp only
      cases columnFault? columns <;> rfl

theorem close_uncached (s : Scanner ρ) : s.uncached.close = (s.close.1, s.close.2.uncached) := by
  obtain ⟨rows, options, single, mode, columns, hasRow, closed⟩ := s
  cases closed <;> rfl

/-- Scanning all rows. -/
theorem scanRows_uncached (c : Catalog) (s : Scanner ρ) (d : Destination) :
    scanRows c (s.uncached, d) =
      ((scanRows c (s, d)).1, (scanRows c (s, d)).2.1.uncached, (scanRows c (s, d)).2.2) := by
  unfold scanRows
  simp only [columnNames_uncached]
  rcases s.columnNames with ⟨e | columns, s⟩
  · rfl
  cases d with
  | _ =>
    simp only [uncached, RowPlan.of_uncached]
    split
    · rfl
    split <;> rfl

/-- **Scanning does not read the capacity.** -/
theorem scan_uncached (c : Catalog) (s : Scanner ρ) (d : Destination) :
    scan c (s.uncached, d) =
      ((scan c (s, d)).1, (scan c (s, d)).2.1.uncached, (scan c (s, d)).2.2) := by
  obtain ⟨rows, options, single, mode, read, hasRow, closed⟩ := s
  cases mode with
  | automatic => rfl
  | manual => rfl
  | fresh =>
    have hscanned :=
      scanRows_uncached c ⟨rows, options, single, .automatic, read, hasRow, closed⟩ d
    simp only [uncached] at hscanned
    simp only [scan, uncached, hscanned]
    have hclosed := close_uncached
      (scanRows c (⟨rows, options, single, .automatic, read, hasRow, closed⟩, d)).2.1
    simp only [uncached] at hclosed
    simp only [hclosed]

theorem advance_uncached (s : Scanner ρ) :
    s.uncached.advance = (s.advance.1, s.advance.2.uncached) := by
  obtain ⟨rows, options, single, mode, read, hasRow, closed⟩ := s
  cases mode with
  | automatic => rfl
  | _ =>
    cases closed with
    | true => rfl
    | false =>
      have hcolumns := columnNames_uncached ⟨rows, options, single, .manual, read, hasRow, false⟩
      simp only [uncached] at hcolumns
      simp only [advance, uncached, Bool.false_eq_true, if_false, hcolumns]
      rcases columnNames ⟨rows, options, single, .manual, read, hasRow, false⟩ with ⟨e | _, s⟩
      · rfl
      simp only
      rcases RowSource.advance s.rows with ⟨e | found, rows⟩
      · rfl
      · rfl

theorem scanRow_uncached (c : Catalog) (s : Scanner ρ) (d : Destination) :
    scanRow c (s.uncached, d) =
      ((scanRow c (s, d)).1, (scanRow c (s, d)).2.1.uncached, (scanRow c (s, d)).2.2) := by
  unfold scanRow
  simp only [columnNames_uncached]
  have hmode : s.uncached.mode = s.mode := rfl
  have hrow : s.uncached.hasRow = s.hasRow := rfl
  rw [hmode, hrow]
  split
  · rfl
  split
  · rfl
  rcases s.columnNames with ⟨e | columns, s⟩
  · rfl
  simp only [uncached, RowPlan.of_uncached]
  split
  · rfl
  split
  · rfl
  split <;> rfl

end Scanner

/-- **No use of a scanner reads the capacity.** -/
theorem ScannerUse.run_uncached {ρ : Type} [RowSource ρ] (c : Catalog) (s : Scanner ρ)
    (u : ScannerUse) : u.run c s.uncached = (u.run c s).uncached := by
  cases u with
  | columns => exact congrArg Prod.snd s.columnNames_uncached
  | advance => exact congrArg Prod.snd s.advance_uncached
  | scan d => exact congrArg (fun r => r.2.1) (Scanner.scan_uncached c s d)
  | scanRow d => exact congrArg (fun r => r.2.1) (Scanner.scanRow_uncached c s d)
  | close => exact congrArg Prod.snd s.close_uncached

end Rowbind
