import Rowbind.Scanner.Basic

/-!
# What the uses of a scanner come to

Reading the columns, going on to the next row, storing the current one and scanning a single row
each have a short list of outcomes: `ReadsColumns`, `Advances`, `StoresRow` and `FillsOne` have one
case for each, with what was asked of the source on the way and what is left. Every fact about one
such use is a case analysis of its outcomes.

A scanner has a column list (`HasColumns`) when it has read one before, or when its source gives one
now in which there are columns and no two have one name. It is mapped to a destination (`Mapped`)
when it has a column list and there is a plan for it.
-/

namespace Rowbind

/-! ## Column lists -/

theorem firstRepeated?_eq_none_iff {before names : List String} :
    firstRepeated? before names = none ↔ names.Nodup ∧ ∀ name ∈ names, name ∉ before := by
  induction names generalizing before with
  | nil => simp [firstRepeated?]
  | cons name names ih =>
    rw [firstRepeated?, List.nodup_cons, List.forall_mem_cons]
    by_cases hmem : name ∈ before
    · simp [hmem]
    · have hnew : before.contains name = false := by simpa using hmem
      rw [hnew, if_neg Bool.false_ne_true, ih]
      grind

/-- **A column list is usable** when there are columns, and no two have one name. -/
theorem columnFault?_eq_none_iff {columns : List String} :
    columnFault? columns = none ↔ columns ≠ [] ∧ columns.Nodup := by
  cases columns with
  | nil => simp [columnFault?]
  | cons column columns =>
    rw [columnFault?, List.isEmpty_cons, if_neg Bool.false_ne_true, Option.map_eq_none_iff,
      firstRepeated?_eq_none_iff]
    simp

namespace Scanner

variable {ρ : Type} [RowSource ρ]

/-- **Whether a scanner has a column list**: one that it has read, or one that its source gives now,
of columns no two of which have one name. -/
def HasColumns (s : Scanner ρ) (columns : List String) : Prop :=
  s.columns = some columns ∨
    s.columns = none ∧ (RowSource.columns s.rows).1 = .ok columns ∧ columns ≠ [] ∧ columns.Nodup

/-- **Whether a scanner's columns are mapped to a destination**, by a plan. -/
structure Mapped (c : Catalog) (s : Scanner ρ) (d : Destination) (columns : List String)
    (plan : RowPlan) : Prop where
  hasColumns : s.HasColumns columns
  plan_eq : RowPlan.of c s.options columns d.shape = .ok plan

/-! ## The outcomes -/

/-- **What reading the column list comes to.** -/
inductive ReadsColumns (s : Scanner ρ) : Except Error (List String) × Scanner ρ → Prop
  | known {columns : List String} (hread : s.columns = some columns) :
    ReadsColumns s (.ok columns, { s with columns := some columns })
  | failed {e : Error} {rows : ρ} (hunread : s.columns = none)
      (hcolumns : RowSource.columns s.rows = (.error e, rows)) :
    ReadsColumns s (.error e, { s with rows := rows })
  | unusable {columns : List String} {fault : ColumnFault} {rows : ρ} (hunread : s.columns = none)
      (hcolumns : RowSource.columns s.rows = (.ok columns, rows))
      (hfault : columnFault? columns = some fault) :
    ReadsColumns s (.error (.invalidColumns fault), { s with rows := rows })
  | read {columns : List String} {rows : ρ} (hunread : s.columns = none)
      (hcolumns : RowSource.columns s.rows = (.ok columns, rows))
      (husable : columnFault? columns = none) :
    ReadsColumns s (.ok columns, { s with rows := rows, columns := some columns })

theorem readsColumns (s : Scanner ρ) : ReadsColumns s s.columnNames := by
  obtain ⟨rows, options, single, mode, columns, hasRow, closed⟩ := s
  cases columns with
  | some columns => exact .known rfl
  | none =>
    rw [columnNames]
    rcases hcolumns : RowSource.columns rows with ⟨e | columns, rows'⟩
    · exact .failed rfl hcolumns
    · cases hfault : columnFault? columns with
      | some fault =>
        simp only [hfault]
        exact .unusable rfl hcolumns hfault
      | none =>
        simp only [hfault]
        exact .read rfl hcolumns hfault

/-- Reading the columns fails, and then there are none read; or it gives what is read from then on.
The source and the list are all that changes. -/
theorem columnNames_cases (s : Scanner ρ) :
    (∃ e rows, s.columns = none ∧ s.columnNames = (.error e, { s with rows := rows })) ∨
      ∃ columns rows,
        s.columnNames = (.ok columns, { s with rows := rows, columns := some columns }) := by
  have h := readsColumns s
  generalize s.columnNames = result at h ⊢
  cases h with
  | known => exact .inr ⟨_, s.rows, rfl⟩
  | failed hunread => exact .inl ⟨_, _, hunread, rfl⟩
  | unusable hunread => exact .inl ⟨_, _, hunread, rfl⟩
  | read => exact .inr ⟨_, _, rfl⟩

/-- A column list that was read is at hand. -/
theorem columnNames_of_read {s : Scanner ρ} {columns : List String}
    (h : s.columns = some columns) : s.columnNames = (.ok columns, s) := by
  simp only [columnNames, h]

/-- **A scanner answers with the column list that it has.** -/
theorem columnNames_eq_ok_iff {s : Scanner ρ} {columns : List String} :
    s.columnNames.1 = .ok columns ↔ s.HasColumns columns := by
  have h := readsColumns s
  generalize s.columnNames = result at h ⊢
  cases h with
  | known hread => simp [HasColumns, hread]
  | failed hunread hcolumns => simp [HasColumns, hunread, hcolumns]
  | unusable hunread hcolumns hfault =>
    simp only [HasColumns, hunread, hcolumns, reduceCtorEq, Except.ok.injEq, false_or, true_and,
      false_iff]
    rintro ⟨rfl, hgood⟩
    rw [columnFault?_eq_none_iff.mpr hgood] at hfault
    cases hfault
  | read hunread hcolumns husable =>
    have hgood := columnFault?_eq_none_iff.mp husable
    simp only [HasColumns, hunread, hcolumns, reduceCtorEq, Except.ok.injEq, false_or, true_and]
    constructor
    · rintro rfl
      exact ⟨rfl, hgood⟩
    · exact fun h => h.1

/-- A scanner that has a column list reads it, and changes nothing else but its source. -/
theorem HasColumns.columnNames_eq {s : Scanner ρ} {columns : List String}
    (h : s.HasColumns columns) :
    ∃ rows, s.columnNames = (.ok columns, { s with rows := rows, columns := some columns }) := by
  have hread := columnNames_eq_ok_iff.mpr h
  rcases columnNames_cases s with ⟨e, rows, -, hcolumns⟩ | ⟨names, rows, hcolumns⟩
  · rw [hcolumns] at hread
    cases hread
  · rw [hcolumns] at hread
    cases hread
    exact ⟨rows, hcolumns⟩

/-- Reading the columns does not look at the mode, and keeps it. -/
theorem columnNames_mode (s : Scanner ρ) (mode : ScanMode) :
    ({ s with mode := mode } : Scanner ρ).columnNames =
      (s.columnNames.1, { s.columnNames.2 with mode := mode }) := by
  obtain ⟨rows, options, single, mode', columns, hasRow, closed⟩ := s
  cases columns with
  | some columns => rfl
  | none =>
    simp only [columnNames]
    rcases RowSource.columns rows with ⟨e | columns, rows'⟩
    · rfl
    · simp only
      cases columnFault? columns <;> rfl

/-- **What going on to the next row comes to.** -/
inductive Advances (s : Scanner ρ) : Except Error Bool × Scanner ρ → Prop
  | refused (hmode : s.mode = .automatic) :
    Advances s (.error (.usage .manualAfterAutomatic), s)
  | closed (hmode : s.mode ≠ .automatic) (hclosed : s.closed = true) :
    Advances s (.ok false, { s with mode := .manual })
  | unread {e : Error} {rows : ρ} (hmode : s.mode ≠ .automatic) (hopen : s.closed = false)
      (hunread : s.columns = none) (hcolumns : s.columnNames = (.error e, { s with rows := rows })) :
    Advances s (.error e, { s with mode := .manual, rows := rows })
  | failed {columns : List String} {e : Error} {rows rows' : ρ} (hmode : s.mode ≠ .automatic)
      (hopen : s.closed = false)
      (hcolumns : s.columnNames = (.ok columns, { s with rows := rows, columns := some columns }))
      (hadvance : RowSource.advance rows = (.error e, rows')) :
    Advances s (.error e, { s with mode := .manual, rows := rows', columns := some columns })
  | went {columns : List String} {found : Bool} {rows rows' : ρ} (hmode : s.mode ≠ .automatic)
      (hopen : s.closed = false)
      (hcolumns : s.columnNames = (.ok columns, { s with rows := rows, columns := some columns }))
      (hadvance : RowSource.advance rows = (.ok found, rows')) :
    Advances s (.ok found,
      { s with mode := .manual, rows := rows', columns := some columns, hasRow := found })

/-- An open scanner goes on as its source does, once it has its columns. -/
theorem advance_of_open {s : Scanner ρ} (hmode : s.mode ≠ .automatic) (hopen : s.closed = false) :
    s.advance =
      match ({ s with mode := .manual } : Scanner ρ).columnNames with
      | (.error e, s) => (.error e, s)
      | (.ok _, s) =>
        match RowSource.advance s.rows with
        | (.error e, rows) => (.error e, { s with rows := rows })
        | (.ok found, rows) => (.ok found, { s with rows := rows, hasRow := found }) := by
  rw [advance]
  split
  · exact absurd ‹_› hmode
  · exact (if_neg (by simp [hopen])).trans rfl

theorem advances (s : Scanner ρ) : Advances s s.advance := by
  by_cases hmode : s.mode = .automatic
  · have hadvance : s.advance = (.error (.usage .manualAfterAutomatic), s) := by
      simp only [advance, hmode]
    exact hadvance ▸ .refused hmode
  · cases hopen : s.closed with
    | true =>
      have hadvance : s.advance = (.ok false, { s with mode := .manual }) := by
        simp only [advance, hopen, if_true]
      exact hadvance ▸ .closed hmode hopen
    | false =>
      rw [advance_of_open hmode hopen, columnNames_mode]
      rcases columnNames_cases s with ⟨e, rows, hunread, hcolumns⟩ | ⟨columns, rows, hcolumns⟩
      · simp only [hcolumns]
        exact .unread hmode hopen hunread hcolumns
      · simp only [hcolumns]
        rcases hadvance : RowSource.advance rows with ⟨e | found, rows'⟩
        · exact .failed hmode hopen hcolumns hadvance
        · exact .went hmode hopen hcolumns hadvance

/-- **What storing the current row comes to.** -/
inductive StoresRow (c : Catalog) (s : Scanner ρ) (d : Destination) :
    Except Error Unit × Scanner ρ × Destination → Prop
  | refused {fault : UsageFault} (hnone : s.mode ≠ .manual ∨ s.hasRow = false) :
    StoresRow c s d (.error (.usage fault), s, d)
  | unread {e : Error} {rows : ρ} (hmode : s.mode = .manual) (hrow : s.hasRow = true)
      (hunread : s.columns = none) (hcolumns : s.columnNames = (.error e, { s with rows := rows })) :
    StoresRow c s d (.error e, { s with rows := rows }, d)
  | unmapped {columns : List String} {e : Error} {rows : ρ} (hmode : s.mode = .manual)
      (hrow : s.hasRow = true)
      (hcolumns : s.columnNames = (.ok columns, { s with rows := rows, columns := some columns }))
      (hplan : ∀ plan, RowPlan.of c s.options columns d.shape ≠ .ok plan) :
    StoresRow c s d (.error e, { s with rows := rows, columns := some columns }, d)
  | failed {columns : List String} {plan : RowPlan} {e : Error} {rows rows' : ρ}
      (hmode : s.mode = .manual) (hrow : s.hasRow = true)
      (hcolumns : s.columnNames = (.ok columns, { s with rows := rows, columns := some columns }))
      (hplan : RowPlan.of c s.options columns d.shape = .ok plan)
      (htake : RowSource.take rows = (.error e, rows')) :
    StoresRow c s d (.error e, { s with rows := rows', columns := some columns }, d)
  | stored {columns : List String} {plan : RowPlan} {values : List Value} {rows rows' : ρ}
      (hmode : s.mode = .manual) (hrow : s.hasRow = true)
      (hcolumns : s.columnNames = (.ok columns, { s with rows := rows, columns := some columns }))
      (hplan : RowPlan.of c s.options columns d.shape = .ok plan)
      (htake : RowSource.take rows = (.ok values, rows')) :
    StoresRow c s d ((store c plan columns values d).1,
      { s with rows := rows', columns := some columns, hasRow := false },
      (store c plan columns values d).2)

theorem storesRow (c : Catalog) (s : Scanner ρ) (d : Destination) :
    StoresRow c s d (scanRow c (s, d)) := by
  by_cases hmode : s.mode = .manual
  · cases hrow : s.hasRow with
    | false =>
      have hscan : scanRow c (s, d) = (.error (.usage .noCurrentRow), s, d) := by
        simp [scanRow, hmode, hrow]
      exact hscan ▸ .refused (.inr hrow)
    | true =>
      simp only [scanRow, hmode, ne_eq, not_true_eq_false, if_false, hrow, Bool.not_true,
        Bool.false_eq_true]
      rcases columnNames_cases s with ⟨e, rows, hunread, hcolumns⟩ | ⟨columns, rows, hcolumns⟩
      · simp only [hcolumns]
        exact .unread hmode hrow hunread hcolumns
      · simp only [hcolumns]
        split
        · rename_i hlist
          exact .unmapped hmode hrow hcolumns (by simp [hlist, RowPlan.of])
        cases hplan : RowPlan.of c s.options columns d.shape with
        | error e => exact .unmapped hmode hrow hcolumns (by simp [hplan])
        | ok plan =>
          simp only
          rcases htake : RowSource.take rows with ⟨e | values, rows'⟩
          · exact .failed hmode hrow hcolumns hplan htake
          · exact .stored hmode hrow hcolumns hplan htake
  · have hscan : scanRow c (s, d) = (.error (.usage .rowBeforeAdvance), s, d) := by
      simp [scanRow, hmode]
    exact hscan ▸ .refused (.inl hmode)

/-- **Whether the next row is stored**: the source goes on to one and gives its values, and the
destination takes them. -/
def StoresNext (c : Catalog) (plan : RowPlan) (columns : List String) (rows rows₁ : ρ)
    (d d₁ : Destination) : Prop :=
  ∃ between values, RowSource.advance rows = (.ok true, between) ∧
    RowSource.take between = (.ok values, rows₁) ∧ store c plan columns values d = (.ok (), d₁)

/-- **What scanning a single row comes to**, by where the rows end it. -/
inductive FillsOne (c : Catalog) (plan : RowPlan) (columns : List String) (rows : ρ)
    (d : Destination) : Except Error Unit × ρ × Destination → Prop
  | failed {e : Error} {rows₁ : ρ} (hadvance : RowSource.advance rows = (.error e, rows₁)) :
    FillsOne c plan columns rows d (.error e, rows₁, d)
  | none {rows₁ : ρ} (hadvance : RowSource.advance rows = (.ok false, rows₁)) :
    FillsOne c plan columns rows d (.error .notFound, rows₁, d)
  | untaken {e : Error} {between rows₁ : ρ}
      (hadvance : RowSource.advance rows = (.ok true, between))
      (htake : RowSource.take between = (.error e, rows₁)) :
    FillsOne c plan columns rows d (.error e, rows₁, d)
  | unstored {e : Error} {values : List Value} {between rows₁ : ρ} {d₁ : Destination}
      (hadvance : RowSource.advance rows = (.ok true, between))
      (htake : RowSource.take between = (.ok values, rows₁))
      (hstore : store c plan columns values d = (.error e, d₁)) :
    FillsOne c plan columns rows d (.error e, rows₁, d₁)
  | failedBehind {e : Error} {rows₁ rows₂ : ρ} {d₁ : Destination}
      (hstores : StoresNext c plan columns rows rows₁ d d₁)
      (hagain : RowSource.advance rows₁ = (.error e, rows₂)) :
    FillsOne c plan columns rows d (.error e, rows₂, d₁)
  | many {rows₁ rows₂ : ρ} {d₁ : Destination}
      (hstores : StoresNext c plan columns rows rows₁ d d₁)
      (hagain : RowSource.advance rows₁ = (.ok true, rows₂)) :
    FillsOne c plan columns rows d (.error .tooManyRows, rows₂, d₁)
  | one {rows₁ rows₂ : ρ} {d₁ : Destination}
      (hstores : StoresNext c plan columns rows rows₁ d d₁)
      (hagain : RowSource.advance rows₁ = (.ok false, rows₂)) :
    FillsOne c plan columns rows d (.ok (), rows₂, d₁)

theorem fillsOne (c : Catalog) (plan : RowPlan) (columns : List String) (rows : ρ)
    (d : Destination) : FillsOne c plan columns rows d (fillOne c plan columns rows d) := by
  unfold fillOne
  rcases hadvance : RowSource.advance rows with ⟨e | found, between⟩
  · exact .failed hadvance
  cases found with
  | false => exact .none hadvance
  | true =>
    simp only
    rcases htake : RowSource.take between with ⟨e | values, rows₁⟩
    · exact .untaken hadvance htake
    simp only
    rcases hstore : store c plan columns values d with ⟨e | _, d₁⟩
    · exact .unstored hadvance htake hstore
    simp only
    have hstores : StoresNext c plan columns rows rows₁ d d₁ :=
      ⟨between, values, hadvance, htake, hstore⟩
    rcases hagain : RowSource.advance rows₁ with ⟨e | found, rows₂⟩
    · exact .failedBehind hstores hagain
    cases found with
    | true => exact .many hstores hagain
    | false => exact .one hstores hagain

end Scanner

end Rowbind
