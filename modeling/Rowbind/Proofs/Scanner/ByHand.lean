import Rowbind.Proofs.Scanner.Closing
import Rowbind.Proofs.Scanner.Steps

/-!
# Scanning by hand stores what a scan stores

A list can be filled in two ways: by one scan, or by hand, going on from row to row and storing each
into a new destination (`Scanner.scanEach`). The one makes its plan once for all rows and never
looks at the flag for the current row; the other makes a plan for each row and goes by the flag. For
columns that are mapped to the elements they store the same, end alike, and leave the source in the
same state (`Scanner.scan_list_eq_scanEach`).
-/

namespace Rowbind

namespace Scanner

variable {ρ : Type} [RowSource ρ]

/-! ## The loop -/

/-- A column list that was read is given without a call. -/
theorem rows_of_read {s : Scanner ρ} {columns : List String} {rows : ρ}
    (hread : s.columns.isSome)
    (h : s.columnNames = (.ok columns, { s with rows := rows, columns := some columns })) :
    rows = s.rows := by
  obtain ⟨names, hread⟩ := Option.isSome_iff_exists.mp hread
  rw [columnNames_of_read hread] at h
  exact (congrArg (fun result => result.2.rows) h).symm

/-- Going on to a row takes the scanner nearer to the end: its columns are read, or were, and there
are fewer rows to come. -/
theorem ahead_of_advance {s s₁ : Scanner ρ} (h : s.advance = (.ok true, s₁)) :
    s₁.columns.isSome ∧
      (s.columns.isSome → RowSource.remaining s₁.rows < RowSource.remaining s.rows) := by
  have hadvance := s.advances
  rw [h] at hadvance
  cases hadvance with
  | went _ _ hcolumns hadvance =>
    refine ⟨rfl, fun hread => ?_⟩
    rw [← rows_of_read hread hcolumns]
    exact RowSource.remaining_advance _ _ hadvance

/-- Storing the current row takes the scanner no farther from the end. -/
theorem ahead_of_scanRow {c : Catalog} {s s₁ : Scanner ρ} {d d₁ : Destination}
    (hread : s.columns.isSome) (h : scanRow c (s, d) = (.ok (), s₁, d₁)) :
    s₁.columns.isSome ∧ RowSource.remaining s₁.rows ≤ RowSource.remaining s.rows := by
  have hstores := storesRow c s d
  rw [h] at hstores
  generalize hanswer : (Except.ok () : Except Error Unit) = answer at hstores
  cases hstores with
  | stored _ _ hcolumns _ htake =>
    refine ⟨rfl, ?_⟩
    rw [← rows_of_read hread hcolumns]
    exact RowSource.remaining_take _ _ _ htake
  | _ => cases hanswer

/-- **Scans row by row**: goes on to the next row and stores it into a new destination, until there
is none or something fails. The last component is what was stored. -/
def scanEach (c : Catalog) (fresh : Destination) (s : Scanner ρ) :
    Except Error Unit × Scanner ρ × List Destination :=
  match _ha : s.advance with
  | (.error e, s₁) => (.error e, s₁, [])
  | (.ok false, s₁) => (.ok (), s₁, [])
  | (.ok true, s₁) =>
    match _hr : scanRow c (s₁, fresh) with
    | (.error e, s₂, _) => (.error e, s₂, [])
    | (.ok (), s₂, item) =>
      let (answer, s₃, items) := scanEach c fresh s₂
      (answer, s₃, item :: items)
termination_by (if s.columns.isSome then 0 else 1, RowSource.remaining s.rows)
decreasing_by
  obtain ⟨hread, hadvance⟩ := ahead_of_advance _ha
  obtain ⟨hstill, hstore⟩ := ahead_of_scanRow hread _hr
  rw [Prod.lex_def, if_pos hstill]
  cases hbefore : s.columns.isSome with
  | false => exact .inl Nat.one_pos
  | true => exact .inr ⟨rfl, Nat.lt_of_le_of_lt hstore (hadvance hbefore)⟩

variable {c : Catalog} {s : Scanner ρ} {fresh : Destination} {columns : List String}
  {plan : RowPlan}

/-- What the loop does next. -/
theorem scanEach_eq (c : Catalog) (fresh : Destination) (s : Scanner ρ) :
    s.scanEach c fresh =
      match s.advance with
      | (.error e, s₁) => (.error e, s₁, [])
      | (.ok false, s₁) => (.ok (), s₁, [])
      | (.ok true, s₁) =>
        match scanRow c (s₁, fresh) with
        | (.error e, s₂, _) => (.error e, s₂, [])
        | (.ok (), s₂, item) =>
          ((s₂.scanEach c fresh).1, (s₂.scanEach c fresh).2.1,
            item :: (s₂.scanEach c fresh).2.2) := by
  rw [scanEach]
  split
  · rename_i ha
    simp only [ha]
  · rename_i ha
    simp only [ha]
  · rename_i s₁ ha
    simp only [ha]
    rcases hr : scanRow c (s₁, fresh) with ⟨e | _, s₂, item⟩
    · rfl
    · rfl

/-- The loop closes nothing. The induction is on the rows taken. -/
theorem closed_scanEach (c : Catalog) (fresh : Destination) (s : Scanner ρ) :
    (s.scanEach c fresh).2.1.closed = s.closed := by
  have hadvance := closed_advance s
  fun_induction scanEach c fresh s with
  | case1 s e s₁ ha => rwa [ha] at hadvance
  | case2 s s₁ ha => rwa [ha] at hadvance
  | case3 s s₁ ha e s₂ item hr =>
    rw [ha] at hadvance
    have hrow := closed_scanRow c s₁ fresh
    rw [hr] at hrow
    exact hrow.trans hadvance
  | case4 s s₁ ha s₂ item hr answer s₃ items hrest ih =>
    rw [ha] at hadvance
    have hrow := closed_scanRow c s₁ fresh
    rw [hr] at hrow
    have hlater := ih (closed_advance s₂)
    rw [hrest] at hlater
    exact hlater.trans (hrow.trans hadvance)

/-! ## A scanner that is ready -/

/-- An open scanner that has its columns goes on as its source does. -/
theorem advance_of_columns {s₁ : Scanner ρ} (hmode : s.mode ≠ .automatic)
    (hopen : s.closed = false) (hcolumns : s.columnNames = (.ok columns, s₁)) :
    s.advance =
      match RowSource.advance s₁.rows with
      | (.error e, rows) => (.error e, { s₁ with mode := .manual, rows := rows })
      | (.ok found, rows) =>
        (.ok found, { s₁ with mode := .manual, rows := rows, hasRow := found }) := by
  have hadvance := advance_of_open hmode hopen
  rw [columnNames_mode, hcolumns] at hadvance
  exact hadvance

/-- A row gone to by hand is stored as its source gives it. -/
theorem scanRow_of_ready (hmode : s.mode = .manual) (hrow : s.hasRow = true)
    (hread : s.columns = some columns)
    (hplan : RowPlan.of c s.options columns fresh.shape = .ok plan) :
    scanRow c (s, fresh) =
      match RowSource.take s.rows with
      | (.error e, rows) => (.error e, { s with rows := rows }, fresh)
      | (.ok values, rows) =>
        ((store c plan columns values fresh).1, { s with rows := rows, hasRow := false },
          (store c plan columns values fresh).2) := by
  have hnot : fresh.shape ≠ .list := fun hlist => by
    rw [hlist] at hplan
    cases hplan
  rcases htake : RowSource.take s.rows with ⟨e | values, rows⟩
  · simp [scanRow, hmode, hrow, columnNames_of_read hread, hnot, hplan, htake]
  · simp [scanRow, hmode, hrow, columnNames_of_read hread, hnot, hplan, htake]

/-- **What the loop does next with a scanner that is ready**: what scanning into a list does. -/
theorem scanEach_of_ready (hmode : s.mode ≠ .automatic) (hopen : s.closed = false)
    (hread : s.columns = some columns)
    (hplan : RowPlan.of c s.options columns fresh.shape = .ok plan) :
    s.scanEach c fresh =
      match RowSource.advance s.rows with
      | (.error e, rows) => (.error e, { s with mode := .manual, rows := rows }, [])
      | (.ok false, rows) =>
        (.ok (), { s with mode := .manual, rows := rows, hasRow := false }, [])
      | (.ok true, rows) =>
        match RowSource.take rows with
        | (.error e, rows) =>
          (.error e, { s with mode := .manual, rows := rows, hasRow := true }, [])
        | (.ok values, rows) =>
          let s₁ := { s with mode := .manual, rows := rows, hasRow := false }
          match store c plan columns values fresh with
          | (.error e, _) => (.error e, s₁, [])
          | (.ok (), item) =>
            ((s₁.scanEach c fresh).1, (s₁.scanEach c fresh).2.1,
              item :: (s₁.scanEach c fresh).2.2) := by
  rw [scanEach_eq, advance_of_columns hmode hopen (columnNames_of_read hread)]
  rcases RowSource.advance s.rows with ⟨e | found, rows⟩
  · rfl
  cases found with
  | false => rfl
  | true =>
    have hrow := scanRow_of_ready
      (s := { s with mode := .manual, rows := rows, hasRow := true }) rfl rfl hread hplan
    simp only at hrow ⊢
    rw [hrow]
    rcases RowSource.take rows with ⟨e | values, rows₁⟩
    · rfl
    simp only
    rcases store c plan columns values fresh with ⟨e | _, item⟩
    · rfl
    · rfl

/-- **Scanning into a list is the loop.** The induction is on the rows taken. -/
theorem fillList_eq_scanEach (hmode : s.mode ≠ .automatic) (hopen : s.closed = false)
    (hread : s.columns = some columns)
    (hplan : RowPlan.of c s.options columns fresh.shape = .ok plan) (items : List Destination) :
    fillList c plan columns fresh s.rows items =
      ((s.scanEach c fresh).1, (s.scanEach c fresh).2.1.rows,
        items ++ (s.scanEach c fresh).2.2) := by
  have hmanual : ScanMode.manual ≠ .automatic := by decide
  generalize hrows : s.rows = rows
  fun_induction fillList c plan columns fresh rows items generalizing s with
  | case1 rows items e rows₁ ha =>
    rw [scanEach_of_ready hmode hopen hread hplan, hrows, ha]
    simp
  | case2 rows items rows₁ ha =>
    rw [scanEach_of_ready hmode hopen hread hplan, hrows, ha]
    simp
  | case3 rows items rows₁ ha e rows₂ ht =>
    rw [scanEach_of_ready hmode hopen hread hplan, hrows, ha]
    simp [ht]
  | case4 rows items rows₁ ha values rows₂ ht e item hs =>
    rw [scanEach_of_ready hmode hopen hread hplan, hrows, ha]
    simp [ht, hs]
  | case5 rows items rows₁ ha values rows₂ ht item hs ih =>
    have hnext := ih (s := { s with mode := .manual, rows := rows₂, hasRow := false })
      hmanual hopen hread hplan rfl
    rw [scanEach_of_ready hmode hopen hread hplan, hrows, ha]
    simp only [ht, hs]
    rw [hnext, List.append_assoc, List.singleton_append]

/-- The loop begins with reading the columns. -/
theorem scanEach_of_columnNames {rows : ρ} (hmode : s.mode ≠ .automatic)
    (hopen : s.closed = false)
    (hcolumns : s.columnNames = (.ok columns, { s with rows := rows, columns := some columns })) :
    ({ s with rows := rows, columns := some columns } : Scanner ρ).scanEach c fresh =
      s.scanEach c fresh := by
  have hadvance : ({ s with rows := rows, columns := some columns } : Scanner ρ).advance =
      s.advance :=
    (advance_of_columns (s := { s with rows := rows, columns := some columns }) hmode hopen
      (columnNames_of_read rfl)).trans (advance_of_columns hmode hopen hcolumns).symm
  rw [scanEach_eq, scanEach_eq c fresh s, hadvance]

/-- A scan of many rows scans into its list. -/
theorem scanRows_list {s₁ : Scanner ρ} {element : Shape}
    (hcolumns : s.columnNames = (.ok columns, s₁)) (hmany : s₁.single = false)
    (hplan : RowPlan.of c s₁.options columns element = .ok plan) (items : List Destination) :
    scanRows c (s, .list element fresh items) =
      ((fillList c plan columns fresh s₁.rows items).1,
        { s₁ with rows := (fillList c plan columns fresh s₁.rows items).2.1 },
        .list element fresh (fillList c plan columns fresh s₁.rows items).2.2) := by
  simp only [scanRows, hcolumns, hmany, Bool.false_eq_true, if_false, hplan]

/-- Closing looks at the source alone, and at whether it was closed. -/
theorem close_congr {s s' : Scanner ρ} (hclosed : s.closed = s'.closed) (hrows : s.rows = s'.rows) :
    s.close.1 = s'.close.1 ∧ s.close.2.rows = s'.close.2.rows := by
  simp only [close, hclosed, hrows]
  split
  · exact ⟨rfl, hrows⟩
  · exact ⟨rfl, rfl⟩

end Scanner

/-- **A scan into a list stores what scanning by hand stores.** For every source and every scanner
of many rows that is neither used nor closed, and whose columns are mapped to the elements of the
list: the scan leaves in the list what was there before, and behind it what going on row by row and
storing each row into a new element comes to, up to where that ends. It fails with the failure that
ends the one by hand; where there is none, it answers as the close does. The source is left in the
state in which closing leaves it behind the loop. -/
theorem Scanner.scan_list_eq_scanEach {ρ : Type} [RowSource ρ] (c : Catalog) {s : Scanner ρ}
    (hfresh : s.mode = .fresh) (hopen : s.closed = false) (hmany : s.single = false)
    {fresh : Destination} {columns : List String} {plan : RowPlan}
    (hmapped : s.Mapped c fresh columns plan) (items : List Destination) :
    let scanned := scan c (s, .list fresh.shape fresh items)
    let byHand := s.scanEach c fresh
    scanned.2.2 = .list fresh.shape fresh (items ++ byHand.2.2) ∧
      scanned.1 =
        (match byHand.1 with
          | .ok () => byHand.2.1.close.1
          | .error e => .error e) ∧
      scanned.2.1.rows = byHand.2.1.close.2.rows := by
  intro scanned byHand
  obtain ⟨rows, hcolumns⟩ := hmapped.hasColumns.columnNames_eq
  have hmode : s.mode ≠ .automatic := hfresh ▸ nofun
  have hfill : fillList c plan columns fresh rows items =
      (byHand.1, byHand.2.1.rows, items ++ byHand.2.2) := by
    rw [fillList_eq_scanEach (s := { s with rows := rows, columns := some columns }) hmode hopen rfl
      hmapped.plan_eq items, scanEach_of_columnNames hmode hopen hcolumns]
  have hread : ({ s with mode := .automatic } : Scanner ρ).columnNames =
      (.ok columns, { s with mode := .automatic, rows := rows, columns := some columns }) := by
    rw [columnNames_mode, hcolumns]
  have hscan : scanned = _ := scan_of_fresh c hfresh (.list fresh.shape fresh items)
  rw [scanRows_list hread hmany hmapped.plan_eq items, hfill] at hscan
  obtain ⟨hanswer, hclose⟩ := close_congr
    (s := { s with mode := .automatic, columns := some columns, rows := byHand.2.1.rows })
    (closed_scanEach c fresh s).symm rfl
  rw [hscan]
  refine ⟨rfl, ?_, hclose⟩
  show (match byHand.1 with
    | .ok () => _
    | .error e => _) = _
  rw [hanswer]

/-- Three rows, of which the second is no text, and a list that holds a text: both ways store the
first row, fail at the second, and keep what was there. -/
theorem Scanner.scan_list_eq_scanEach_of_unfit :
    let c := Catalog.ofDeclarations #[] fun _ name => name
    let text (content : String) := Destination.scalar ⟨.text, content⟩
    let rows : BufferedRows :=
      { columns := ["name"], rows := [[.text "one"], [.int 2], [.text "three"]] }
    let s : Scanner BufferedRows := { rows := rows, options := {}, single := false }
    let scanned := scan c (s, .list .scalar (text "") [text "zero"])
    s.Mapped c (text "") ["name"] .scalar ∧
      (s.scanEach c (text "")).2.2 = [text "one"] ∧
      scanned.2.2 = .list .scalar (text "") [text "zero", text "one"] ∧
      scanned.1 = .error (.conversion "String" "integer") := by
  intro c text rows s scanned
  have hmapped : s.Mapped c (text "") ["name"] .scalar :=
    ⟨.inr ⟨rfl, rfl, by decide, by decide⟩, rfl⟩
  -- the scanner once the first row is stored by hand
  let s₁ : Scanner BufferedRows :=
    { s with mode := .manual, columns := some ["name"], rows := { rows with rows := rows.rows.tail } }
  have hsecond : s₁.scanEach c (text "") =
      (.error (.conversion "String" "integer"), (s₁.scanEach c (text "")).2.1, []) := by
    rw [scanEach_eq]
    rfl
  have hfirst : s.scanEach c (text "") = ((s₁.scanEach c (text "")).1,
      (s₁.scanEach c (text "")).2.1, text "one" :: (s₁.scanEach c (text "")).2.2) := by
    rw [scanEach_eq]
    rfl
  obtain ⟨hitems, hanswer, -⟩ :=
    Scanner.scan_list_eq_scanEach c (s := s) rfl rfl rfl hmapped [text "zero"]
  rw [hfirst, hsecond] at hitems hanswer
  exact ⟨hmapped, by rw [hfirst, hsecond], hitems, hanswer⟩

end Rowbind
