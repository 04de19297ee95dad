import Rowbind.Proofs.Record.Conformance
import Rowbind.Proofs.Scanner.History

/-!
# Scanning a single row

A scanner of a single row stores it and then asks for a second one, which there must not be. What
comes of that hangs on the order of the checks: the columns, the plan, the first row, its values,
the storing, the second row, and the close at the end. `FillsOne` has one case for each place where
the rows can end it.

Two errors count the rows (`Error.countsRows`). Neither a plan nor a value that does not fit fails
in a way that could be taken for one of them, but an error of the source is passed on as it is. That
there was no row is for the scan to report, if the source does not; nothing keeps a source from
reporting too many rows, though, and then the scan does so with a single row or none
(`Scanner.scan_single_of_faults`). When it does is told exactly (`Scanner.scan_single`).
-/

namespace Rowbind

/-! ## Errors that count rows -/

/-- **Whether an error says how many rows there were**: none, or more than one. -/
def Error.countsRows : Error → Bool
  | .tooManyRows => true
  | e => e.isNotFound

theorem Error.countsRows_of_isNotFound {e : Error} (h : e.isNotFound = true) :
    e.countsRows = true := by
  cases e with
  | tooManyRows => rfl
  | _ => exact h

/-- A scalar that cannot take a value says so. -/
theorem ScalarType.scan_error {t : ScalarType} {v : Value} {e : Error} (h : t.scan v = .error e) :
    ∃ expected found, e = .conversion expected found := by
  induction t with
  | optional t ih =>
    by_cases hnull : v = .null
    · subst hnull
      cases h
    · rw [scan_optional t hnull] at h
      cases hscan : t.scan v with
      | ok x =>
        rw [hscan] at h
        cases h
      | error e' =>
        rw [hscan] at h
        cases h
        exact ih hscan
  | boxed t ih => exact ih h
  | int f =>
    cases v with
    | int i =>
      rw [scan] at h
      split at h
      · cases h
      · cases h
        exact ⟨_, _, rfl⟩
    | bool b => cases h
    | _ =>
      cases h
      exact ⟨_, _, rfl⟩
  | text =>
    cases v with
    | bytes b =>
      rw [scan] at h
      split at h
      · cases h
      · cases h
        exact ⟨_, _, rfl⟩
    | text s => cases h
    | _ =>
      cases h
      exact ⟨_, _, rfl⟩
  | _ => cases v <;> cases h <;> exact ⟨_, _, rfl⟩

theorem Slot.scan_error {slot : Slot} {v : Value} {e : Error} (h : (slot.scan v).1 = .error e) :
    ∃ expected found, e = .conversion expected found := by
  rw [Slot.scan] at h
  split at h
  · cases h
  · cases h
    exact ScalarType.scan_error ‹_›

/-- Storing along a path fails as the scalar at its end does. -/
theorem scanAt_error {c : Catalog} {v : Value} {cells : List Cell} {path : Path} {e : Error}
    (h : (scanAt c v cells path).1 = some (.error e)) :
    ∃ expected found, e = .conversion expected found := by
  induction path generalizing cells with
  | nil => cases h
  | cons i path ih =>
    rw [scanAt] at h
    split at h
    · cases h
    · cases h
    · exact ih h
    · exact ih h
    · split at h
      · exact Slot.scan_error (Option.some.inj h)
      · cases h

/-- Storing the columns of a record fails for a value, or for a column that leads nowhere. -/
theorem storeRecord_error {c : Catalog} {target : String} {cells : List Cell}
    {row : List ((String × Value) × Option Path)} {e : Error}
    (h : (storeRecord c target cells row).1 = .error e) : e.countsRows = false := by
  induction row generalizing cells with
  | nil => cases h
  | cons entry row ih =>
    obtain ⟨⟨column, v⟩, path?⟩ := entry
    cases path? with
    | none => exact ih h
    | some path =>
      rw [storeRecord] at h
      split at h
      · exact ih h
      · cases h
        rename_i hscan
        obtain ⟨expected, found, rfl⟩ := scanAt_error (congrArg Prod.fst hscan)
        rfl
      · cases h
        rfl

/-- **A row that cannot be stored says nothing of how many there were.** -/
theorem store_error {c : Catalog} {plan : RowPlan} {columns : List String} {values : List Value}
    {d : Destination} {e : Error} (h : (store c plan columns values d).1 = .error e) :
    e.countsRows = false := by
  unfold store at h
  split at h
  · cases h
    rfl
  · split at h
    · obtain ⟨expected, found, rfl⟩ := Slot.scan_error h
      rfl
    · cases h
    · exact storeRecord_error h
    · cases h
      rfl

/-- Columns without a field say nothing of how many rows there are. -/
theorem columnPaths_error {m : FieldMap} {ignoreMissing : Bool} {target : String}
    {columns : List String} {e : Error}
    (h : columnPaths m ignoreMissing target columns = .error e) : e.countsRows = false := by
  induction columns with
  | nil => cases h
  | cons column columns ih =>
    have hrest {path? : Option Path}
        (h : (columnPaths m ignoreMissing target columns).map (path? :: ·) = .error e) :
        e.countsRows = false := by
      cases hpaths : columnPaths m ignoreMissing target columns with
      | ok paths =>
        rw [hpaths] at h
        cases h
      | error e' =>
        rw [hpaths] at h
        cases h
        exact ih hpaths
    rw [columnPaths] at h
    split at h
    · exact hrest h
    · split at h
      · exact hrest h
      · cases h
        rfl

/-- **Nor does a plan that cannot be made.** -/
theorem RowPlan.of_error {c : Catalog} {o : Options} {columns : List String} {shape : Shape}
    {e : Error} (h : RowPlan.of c o columns shape = .error e) : e.countsRows = false := by
  cases shape with
  | scalar =>
    rw [RowPlan.of] at h
    split at h
    · cases h
    · cases h
      rfl
  | map => cases h
  | list =>
    cases h
    rfl
  | record t =>
    rw [RowPlan.of] at h
    cases hpaths : columnPaths (FieldMap.of c t o.columnRule) o.ignoreMissingFields (c.typeName t)
        columns with
    | ok paths =>
      rw [hpaths] at h
      cases h
    | error e' =>
      rw [hpaths] at h
      cases h
      exact columnPaths_error hpaths

namespace Scanner

variable {ρ : Type} [RowSource ρ]

/-! ## The rows -/

variable {c : Catalog} {plan : RowPlan} {columns : List String} {rows rows₁ rows₂ : ρ}
  {d d₁ : Destination}

/-- Where there is no row, none is found. -/
theorem fillOne_of_end (h : RowSource.advance rows = (.ok false, rows₁)) :
    fillOne c plan columns rows d = (.error .notFound, rows₁, d) := by
  simp only [fillOne, h]

/-- Where the next row is stored, the next row behind it decides. -/
theorem fillOne_of_stores (hstores : StoresNext c plan columns rows rows₁ d d₁) :
    fillOne c plan columns rows d =
      match RowSource.advance rows₁ with
      | (.error e, rows) => (.error e, rows, d₁)
      | (.ok true, rows) => (.error .tooManyRows, rows, d₁)
      | (.ok false, rows) => (.ok (), rows, d₁) := by
  obtain ⟨between, values, hadvance, htake, hstore⟩ := hstores
  rcases hagain : RowSource.advance rows₁ with ⟨e | found, rows₂⟩
  · simp only [fillOne, hadvance, htake, hstore, hagain]
  · cases found <;> simp only [fillOne, hadvance, htake, hstore, hagain]

/-- **One row is stored, and stands there**, exactly if the source gives one that is stored, and
ends behind it. -/
theorem fillOne_eq_ok_iff :
    fillOne c plan columns rows d = (.ok (), rows₂, d₁) ↔
      ∃ rows₁, StoresNext c plan columns rows rows₁ d d₁ ∧
        RowSource.advance rows₁ = (.ok false, rows₂) := by
  constructor
  · intro h
    have hfills := fillsOne c plan columns rows d
    rw [h] at hfills
    generalize hanswer : (Except.ok () : Except Error Unit) = answer at hfills
    cases hfills with
    | one hstores hagain => exact ⟨_, hstores, hagain⟩
    | _ => cases hanswer
  · rintro ⟨rows₁, hstores, hagain⟩
    rw [fillOne_of_stores hstores, hagain]

/-! ## The calls -/

section Calls

open Recorded

variable {rows rows₁ : Recorded ρ}

/-- A row and its values are asked for with two calls. -/
theorem calls_advance_take {between : Recorded ρ} {found : Except Error Bool}
    {taken : Except Error (List Value)} (hadvance : RowSource.advance rows = (found, between))
    (htake : RowSource.take between = (taken, rows₁)) :
    rows₁.calls = rows.calls ++ [.advance found, .take taken] := by
  rw [calls_take htake, calls_advance hadvance, List.append_assoc]
  rfl

theorem StoresNext.calls_eq (h : StoresNext c plan columns rows rows₁ d d₁) :
    ∃ values, rows₁.calls = rows.calls ++ [.advance (.ok true), .take (.ok values)] := by
  obtain ⟨between, values, hadvance, htake, -⟩ := h
  exact ⟨values, calls_advance_take hadvance htake⟩

/-- **The calls of scanning a single row**: at most two rows are asked for, and the values of at
most one. -/
theorem calls_fillOne (c : Catalog) (plan : RowPlan) (columns : List String) (rows : Recorded ρ)
    (d : Destination) :
    ∃ made, (fillOne c plan columns rows d).2.1.calls = rows.calls ++ made ∧
      made.countP RowCall.isAdvance ≤ 2 ∧ made.countP RowCall.isTake ≤ 1 := by
  have hfills := fillsOne c plan columns rows d
  generalize fillOne c plan columns rows d = result at hfills ⊢
  -- behind a row that was stored, one more row is asked for
  have hbehind {rows₁ rows₂ : Recorded ρ} {d₁ : Destination} {found : Except Error Bool}
      (hstores : StoresNext c plan columns rows rows₁ d d₁)
      (hagain : RowSource.advance rows₁ = (found, rows₂)) :
      ∃ made, rows₂.calls = rows.calls ++ made ∧
        made.countP RowCall.isAdvance ≤ 2 ∧ made.countP RowCall.isTake ≤ 1 := by
    obtain ⟨values, hcalls⟩ := hstores.calls_eq
    refine ⟨[.advance (.ok true), .take (.ok values), .advance found], ?_, Nat.le_refl 2,
      Nat.le_refl 1⟩
    rw [calls_advance hagain, hcalls, List.append_assoc]
    rfl
  cases hfills with
  | failed hadvance => exact ⟨_, calls_advance hadvance, Nat.le_succ 1, Nat.zero_le 1⟩
  | none hadvance => exact ⟨_, calls_advance hadvance, Nat.le_succ 1, Nat.zero_le 1⟩
  | untaken hadvance htake =>
    exact ⟨_, calls_advance_take hadvance htake, Nat.le_succ 1, Nat.le_refl 1⟩
  | unstored hadvance htake =>
    exact ⟨_, calls_advance_take hadvance htake, Nat.le_succ 1, Nat.le_refl 1⟩
  | failedBehind hstores hagain => exact hbehind hstores hagain
  | many hstores hagain => exact hbehind hstores hagain
  | one hstores hagain => exact hbehind hstores hagain

/-- **What an error that counts rows rests on**: no row, or a row that is stored and another; unless
the source has reported the error itself. -/
theorem fillOne_counts {e : Error} (h : (fillOne c plan columns rows d).1 = .error e)
    (hcounts : e.countsRows = true) :
    (e = .notFound ∧ (RowSource.advance rows).1 = .ok false ∧
        (fillOne c plan columns rows d).2.2 = d) ∨
      (e = .tooManyRows ∧ ∃ rows₁ d₁, StoresNext c plan columns rows rows₁ d d₁ ∧
        (RowSource.advance rows₁).1 = .ok true) ∨
      ∃ call ∈ (fillOne c plan columns rows d).2.1.calls.drop rows.calls.length,
        call.error? = some e := by
  have hfills := fillsOne c plan columns rows d
  generalize fillOne c plan columns rows d = result at hfills h ⊢
  cases hfills with
  | failed hadvance =>
    cases h
    refine .inr (.inr ⟨.advance (.error e), ?_, rfl⟩)
    rw [calls_advance hadvance, List.drop_left]
    exact List.mem_cons_self
  | none hadvance =>
    cases h
    exact .inl ⟨rfl, congrArg Prod.fst hadvance, rfl⟩
  | untaken hadvance htake =>
    cases h
    refine .inr (.inr ⟨.take (.error e), ?_, rfl⟩)
    rw [calls_advance_take hadvance htake, List.drop_left]
    exact List.mem_cons_of_mem _ List.mem_cons_self
  | unstored _ _ hstore =>
    cases h
    have hrow := store_error (congrArg Prod.fst hstore)
    exact absurd (hrow.symm.trans hcounts) nofun
  | failedBehind hstores hagain =>
    cases h
    obtain ⟨values, hcalls⟩ := hstores.calls_eq
    refine .inr (.inr ⟨.advance (.error e), ?_, rfl⟩)
    rw [calls_advance hagain, hcalls, List.append_assoc, List.drop_left]
    exact List.mem_append_right _ List.mem_cons_self
  | many hstores hagain =>
    cases h
    exact .inr (.inl ⟨rfl, _, _, hstores, congrArg Prod.fst hagain⟩)
  | one => cases h

/-- A row that is stored is asked for without an error. -/
theorem StoresNext.asks_quiet (h : StoresNext c plan columns rows rows₁ d d₁) :
    Asks (RowCall.error? · = none) rows rows₁ := by
  obtain ⟨between, values, hadvance, htake, -⟩ := h
  have hfound : Asks (RowCall.error? · = none) rows between := asks_record hadvance rfl
  have htaken : Asks (RowCall.error? · = none) between rows₁ := asks_record htake rfl
  exact hfound.trans htaken

/-- **What the source reports of its rows is passed on**: nothing is asked behind an error. -/
theorem fillOne_reports {call : RowCall} {e : Error}
    (hcall : call ∈ (fillOne c plan columns rows d).2.1.calls.drop rows.calls.length)
    (h : call.error? = some e) : (fillOne c plan columns rows d).1 = .error e := by
  have hfills := fillsOne c plan columns rows d
  generalize fillOne c plan columns rows d = result at hfills hcall ⊢
  cases hfills with
  | failed hadvance =>
    exact congrArg _ (Option.some.inj ((Asks.refl _).error?_last (calls_advance hadvance) hcall h))
  | none hadvance => cases (Asks.refl _).error?_last (calls_advance hadvance) hcall h
  | untaken hadvance htake =>
    have hfound : Asks (RowCall.error? · = .none) rows _ := asks_record hadvance rfl
    exact congrArg _ (Option.some.inj (hfound.error?_last (calls_take htake) hcall h))
  | unstored hadvance htake =>
    have hfound : Asks (RowCall.error? · = .none) rows _ := asks_record hadvance rfl
    cases hfound.error?_last (calls_take htake) hcall h
  | failedBehind hstores hagain =>
    have herror := hstores.asks_quiet.error?_last (calls_advance hagain) hcall h
    exact congrArg _ (Option.some.inj herror)
  | many hstores hagain => cases hstores.asks_quiet.error?_last (calls_advance hagain) hcall h
  | one hstores hagain => cases hstores.asks_quiet.error?_last (calls_advance hagain) hcall h

end Calls

/-! ## The scan -/

/-- **Whether a scanner's first row is stored**, and what it leaves of the destination and of the
source. -/
def StoresFirst (c : Catalog) (s : Scanner ρ) (d d₁ : Destination) (rows₁ : ρ) : Prop :=
  ∃ columns plan, s.Mapped c d columns plan ∧
    StoresNext c plan columns s.columnNames.2.rows rows₁ d d₁

variable {s s₁ : Scanner ρ}

theorem close_of_open (h : s.closed = false) :
    s.close = ((RowSource.close s.rows).1,
      { s with rows := (RowSource.close s.rows).2, closed := true, hasRow := false }) := by
  simp only [close, h, Bool.false_eq_true, if_false]

/-- What a scan of a single row settles before it turns to the rows. -/
theorem planFor_single (hsingle : s.single = true) :
    s.planFor c d =
      match s.columnNames.1 with
      | .error e => .error e
      | .ok columns =>
        if d.shape = .list then .error (.usage .singleRowIntoList)
        else RowPlan.of c s.options columns d.shape := by
  unfold planFor
  cases s.columnNames.1 with
  | error e => rfl
  | ok columns => cases d <;> simp [hsingle, Destination.shape]

/-- An accepted scan of an open scanner closes the source behind its rows. -/
theorem scan_of_scanRows {answer : Except Error Unit} (hfresh : s.mode = .fresh)
    (hscanned : scanRows c ({ s with mode := .automatic }, d) = (answer, s₁, d₁))
    (hopen : s₁.closed = false) :
    (scan c (s, d)).1 = (answer.bind fun _ => (RowSource.close s₁.rows).1) ∧
      (scan c (s, d)).2.2 = d₁ ∧
      (scan c (s, d)).2.1.rows = (RowSource.close s₁.rows).2 := by
  have hscan := scan_of_fresh c hfresh d
  simp only [hscanned, close_of_open hopen] at hscan
  rw [hscan]
  cases answer with
  | ok => exact ⟨rfl, rfl, rfl⟩
  | error e => exact ⟨rfl, rfl, rfl⟩

/-- **Columns that are not mapped** have an error, which counts no rows unless the source reported
it when it was asked for the columns. -/
theorem planFor_of_unmapped (hsingle : s.single = true)
    (hnot : ∀ columns plan, ¬ s.Mapped c d columns plan) :
    ∃ e, s.planFor c d = .error e ∧
      (e.countsRows = false ∨ s.columns = none ∧ (RowSource.columns s.rows).1 = .error e) := by
  rw [planFor_single hsingle]
  cases hread : s.columnNames.1 with
  | error e =>
    refine ⟨e, rfl, ?_⟩
    have hreads := readsColumns s
    generalize s.columnNames = result at hreads hread
    cases hreads with
    | failed hunread hcolumns =>
      cases hread
      exact .inr ⟨hunread, congrArg Prod.fst hcolumns⟩
    | unusable =>
      cases hread
      exact .inl rfl
    | known => cases hread
    | read => cases hread
  | ok columns =>
    simp only
    split
    · exact ⟨_, rfl, .inl rfl⟩
    · cases hplan : RowPlan.of c s.options columns d.shape with
      | error e => exact ⟨e, rfl, .inl (RowPlan.of_error hplan)⟩
      | ok plan => exact absurd ⟨columnNames_eq_ok_iff.mp hread, hplan⟩ (hnot columns plan)

/-- **A scan without a plan fails before the first row**, and closes. -/
theorem scan_of_unplanned (hfresh : s.mode = .fresh) (hopen : s.closed = false) {e : Error}
    (hplan : s.planFor c d = .error e) :
    (scan c (s, d)).1 = .error e ∧ (scan c (s, d)).2.2 = d ∧
      (scan c (s, d)).2.1.rows = (RowSource.close s.columnNames.2.rows).2 := by
  have hscanned : scanRows c ({ s with mode := .automatic }, d) =
      (.error e, { s.columnNames.2 with mode := .automatic }, d) := by
    rw [scanRows_of_unplanned c ((planFor_mode c s .automatic d).trans hplan), columnNames_mode]
  exact scan_of_scanRows hfresh hscanned ((closed_columnNames s).trans hopen)

/-- A scan of a single row whose columns are mapped stores what the rows come to. -/
theorem scanRows_one (hcolumns : s.columnNames = (.ok columns, s₁)) (hsingle : s₁.single = true)
    (hplan : RowPlan.of c s₁.options columns d.shape = .ok plan) :
    scanRows c (s, d) = ((fillOne c plan columns s₁.rows d).1,
      { s₁ with rows := (fillOne c plan columns s₁.rows d).2.1 },
      (fillOne c plan columns s₁.rows d).2.2) := by
  cases d with
  | list => cases hplan
  | _ => simp only [scanRows, hcolumns, hsingle, Bool.not_true, Bool.false_eq_true, if_false, hplan]

/-- **A scan whose columns are mapped ends as its rows do**, then closes. -/
theorem scan_of_mapped (hsingle : s.single = true) (hfresh : s.mode = .fresh)
    (hopen : s.closed = false) (hmapped : s.Mapped c d columns plan) :
    let filled := fillOne c plan columns s.columnNames.2.rows d
    (scan c (s, d)).1 = (filled.1.bind fun _ => (RowSource.close filled.2.1).1) ∧
      (scan c (s, d)).2.2 = filled.2.2 ∧
      (scan c (s, d)).2.1.rows = (RowSource.close filled.2.1).2 := by
  obtain ⟨rows, hcolumns⟩ := hmapped.hasColumns.columnNames_eq
  have hread : ({ s with mode := .automatic } : Scanner ρ).columnNames =
      (.ok columns, { s with mode := .automatic, rows := rows, columns := some columns }) := by
    rw [columnNames_mode, hcolumns]
  rw [hcolumns]
  exact scan_of_scanRows hfresh (scanRows_one hread hsingle hmapped.plan_eq) hopen

/-- Where the columns are mapped and there is no row, the scan finds none. -/
theorem scan_of_end (hsingle : s.single = true) (hfresh : s.mode = .fresh)
    (hopen : s.closed = false) (hmapped : s.Mapped c d columns plan)
    (hends : (RowSource.advance s.columnNames.2.rows).1 = .ok false) :
    (scan c (s, d)).1 = .error .notFound := by
  obtain ⟨hanswer, -⟩ := scan_of_mapped hsingle hfresh hopen hmapped
  rwa [fillOne_of_end (Prod.ext hends rfl)] at hanswer

/-- Where the first row is stored and there is a second, the scan finds too many. -/
theorem scan_of_second (hsingle : s.single = true) (hfresh : s.mode = .fresh)
    (hopen : s.closed = false) (hfirst : s.StoresFirst c d d₁ rows₁)
    (hagain : (RowSource.advance rows₁).1 = .ok true) :
    (scan c (s, d)).1 = .error .tooManyRows := by
  obtain ⟨columns, plan, hmapped, hstores⟩ := hfirst
  obtain ⟨hanswer, -⟩ := scan_of_mapped hsingle hfresh hopen hmapped
  rwa [fillOne_of_stores hstores,
    show RowSource.advance rows₁ = (.ok true, _) from Prod.ext hagain rfl] at hanswer

/-- Where the first row is stored and stands alone, the scan ends as the close does. -/
theorem scan_of_alone (hsingle : s.single = true) (hfresh : s.mode = .fresh)
    (hopen : s.closed = false) (hfirst : s.StoresFirst c d d₁ rows₁)
    (hagain : RowSource.advance rows₁ = (.ok false, rows₂)) :
    (scan c (s, d)).1 = (RowSource.close rows₂).1 ∧ (scan c (s, d)).2.2 = d₁ ∧
      (scan c (s, d)).2.1.rows = (RowSource.close rows₂).2 := by
  obtain ⟨columns, plan, hmapped, hstores⟩ := hfirst
  have hscan := scan_of_mapped hsingle hfresh hopen hmapped
  rw [fillOne_eq_ok_iff.mpr ⟨rows₁, hstores, hagain⟩] at hscan
  exact hscan

/-- **When a scan of a single row succeeds**, and with what. -/
theorem scan_single_ok_iff (hsingle : s.single = true) (hfresh : s.mode = .fresh)
    (hopen : s.closed = false) :
    (scan c (s, d)).1 = .ok () ∧ (scan c (s, d)).2.2 = d₁ ↔
      ∃ rows₁ rows₂, s.StoresFirst c d d₁ rows₁ ∧
        RowSource.advance rows₁ = (.ok false, rows₂) ∧ (RowSource.close rows₂).1 = .ok () := by
  constructor
  · rintro ⟨h, rfl⟩
    by_cases hmapped : ∃ columns plan, s.Mapped c d columns plan
    · obtain ⟨columns, plan, hmapped⟩ := hmapped
      obtain ⟨hanswer, hd, -⟩ := scan_of_mapped hsingle hfresh hopen hmapped
      rcases hfilled : fillOne c plan columns s.columnNames.2.rows d with ⟨e | _, rows₂, d₁⟩
      · rw [hfilled] at hanswer
        cases h.symm.trans hanswer
      · rw [hfilled] at hanswer hd
        obtain ⟨rows₁, hstores, hagain⟩ := fillOne_eq_ok_iff.mp hfilled
        exact ⟨rows₁, rows₂, ⟨columns, plan, hmapped, hd ▸ hstores⟩, hagain,
          hanswer.symm.trans h⟩
    · obtain ⟨e, hplan, -⟩ := planFor_of_unmapped hsingle
        fun columns plan h => hmapped ⟨columns, plan, h⟩
      cases h.symm.trans (scan_of_unplanned hfresh hopen hplan).1
  · rintro ⟨rows₁, rows₂, hfirst, hagain, hclose⟩
    obtain ⟨hanswer, hd, -⟩ := scan_of_alone hsingle hfresh hopen hfirst hagain
    exact ⟨hanswer.trans hclose, hd⟩

/-! ## The calls of the scan -/

section Calls

open Recorded

variable {s : Scanner (Recorded ρ)}

/-- The scan's calls end with the close. -/
theorem calls_scan {rows : Recorded ρ} {made : List RowCall}
    (hrows : (scan c (s, d)).2.1.rows = (RowSource.close rows).2)
    (hmade : rows.calls = s.rows.calls ++ made) :
    (ScannerUse.scan d).calls c s = made ++ [.close (RowSource.close rows).1] := by
  refine ScannerUse.calls_eq ?_
  show (scan c (s, d)).2.1.rows.calls = _
  rw [hrows]
  show rows.calls ++ [.close (RowSource.close rows).1] = _
  rw [hmade, List.append_assoc]

/-- Columns not read yet are asked for. -/
theorem calls_columnNames (hunread : s.columns = none) :
    s.columnNames.2.rows.calls = s.rows.calls ++ [.columns (RowSource.columns s.rows).1] := by
  have hreads := readsColumns s
  generalize s.columnNames = result at hreads ⊢
  cases hreads with
  | known hread => cases hunread.symm.trans hread
  | failed _ hcolumns => rw [calls_columns hcolumns, hcolumns]
  | unusable _ hcolumns => rw [calls_columns hcolumns, hcolumns]
  | read _ hcolumns => rw [calls_columns hcolumns, hcolumns]

/-- **What the source reports of its columns is passed on.** -/
theorem columnNames_reports {call : RowCall} {e : Error}
    (hcall : call ∈ s.columnNames.2.rows.calls.drop s.rows.calls.length)
    (h : call.error? = some e) : s.columnNames.1 = .error e := by
  have hreads := readsColumns s
  generalize s.columnNames = result at hreads hcall ⊢
  cases hreads with
  | known =>
    rw [List.drop_length] at hcall
    exact absurd hcall List.not_mem_nil
  | failed _ hcolumns =>
    exact congrArg _ (Option.some.inj ((Asks.refl _).error?_last (calls_columns hcolumns) hcall h))
  | unusable _ hcolumns => cases (Asks.refl _).error?_last (calls_columns hcolumns) hcall h
  | read _ hcolumns => cases (Asks.refl _).error?_last (calls_columns hcolumns) hcall h

/-- **What the source reports before it is closed, the scan reports.** -/
theorem scan_reports (hsingle : s.single = true) (hfresh : s.mode = .fresh)
    (hopen : s.closed = false) {call : RowCall} {e : Error}
    (hcall : call ∈ (ScannerUse.scan d).calls c s) (hclose : call.isClose = false)
    (h : call.error? = some e) : (scan c (s, d)).1 = .error e := by
  obtain ⟨made, hmade, -⟩ := asks_columnNames s
  have hcolumns (hcall : call ∈ made) : s.columnNames.1 = .error e :=
    columnNames_reports (by rwa [hmade, List.drop_left]) h
  by_cases hmapped : ∃ columns plan, s.Mapped c d columns plan
  · obtain ⟨columns, plan, hmapped⟩ := hmapped
    obtain ⟨more, hmore, -⟩ := asks_fillOne c plan columns s.columnNames.2.rows d
    obtain ⟨hanswer, -, hrows⟩ := scan_of_mapped hsingle hfresh hopen hmapped
    rw [calls_scan hrows (hmore.trans (by rw [hmade, List.append_assoc]))] at hcall
    rcases List.mem_append.mp hcall with hcall | hcall
    · rcases List.mem_append.mp hcall with hcall | hcall
      · cases (columnNames_eq_ok_iff.mpr hmapped.hasColumns).symm.trans (hcolumns hcall)
      · have hfilled : (fillOne c plan columns s.columnNames.2.rows d).1 = .error e :=
          fillOne_reports (by rwa [hmore, List.drop_left]) h
        rwa [hfilled] at hanswer
    · rw [List.mem_singleton.mp hcall] at hclose
      cases hclose
  · obtain ⟨e', hplan, -⟩ := planFor_of_unmapped hsingle
      fun columns plan h => hmapped ⟨columns, plan, h⟩
    obtain ⟨hanswer, -, hrows⟩ := scan_of_unplanned hfresh hopen hplan
    rw [calls_scan hrows hmade] at hcall
    rcases List.mem_append.mp hcall with hcall | hcall
    · rw [planFor_single hsingle, hcolumns hcall] at hplan
      cases hplan
      exact hanswer
    · rw [List.mem_singleton.mp hcall] at hclose
      cases hclose

/-- **What a scan's error that counts rows rests on**: mapped columns, and no row, or a row that is
stored and another; unless the source has reported the error itself, before it is closed or, behind
a row that is stored and stands alone, when it is. -/
theorem scan_counts (hsingle : s.single = true) (hfresh : s.mode = .fresh)
    (hopen : s.closed = false) {e : Error} (h : (scan c (s, d)).1 = .error e)
    (hcounts : e.countsRows = true) :
    (e = .notFound ∧ (∃ columns plan, s.Mapped c d columns plan) ∧
        (RowSource.advance s.columnNames.2.rows).1 = .ok false ∧ (scan c (s, d)).2.2 = d) ∨
      (e = .tooManyRows ∧ ∃ d₁ rows₁, s.StoresFirst c d d₁ rows₁ ∧
        (RowSource.advance rows₁).1 = .ok true) ∨
      (∃ call ∈ (ScannerUse.scan d).calls c s, call.isClose = false ∧ call.error? = some e) ∨
      ∃ d₁ rows₁ rows₂, s.StoresFirst c d d₁ rows₁ ∧
        RowSource.advance rows₁ = (.ok false, rows₂) ∧ (RowSource.close rows₂).1 = .error e := by
  by_cases hmapped : ∃ columns plan, s.Mapped c d columns plan
  · obtain ⟨columns, plan, hmapped⟩ := hmapped
    obtain ⟨made, hmade, -⟩ := asks_columnNames s
    obtain ⟨hanswer, hd, hrows⟩ := scan_of_mapped hsingle hfresh hopen hmapped
    rcases hfilled : fillOne c plan columns s.columnNames.2.rows d with ⟨e' | _, rows₂, d₁⟩
    · rw [hfilled] at hanswer hd
      cases h.symm.trans hanswer
      rcases fillOne_counts (congrArg Prod.fst hfilled) hcounts with ⟨he, hends, hkept⟩ |
        ⟨he, rows₁, d₁, hstores, hagain⟩ | ⟨call, hcall, hreported⟩
      · rw [hfilled] at hkept
        exact .inl ⟨he, ⟨columns, plan, hmapped⟩, hends, hd.trans hkept⟩
      · exact .inr (.inl ⟨he, d₁, rows₁, ⟨columns, plan, hmapped, hstores⟩, hagain⟩)
      · obtain ⟨more, hmore, hasked⟩ :=
          (asks_fillOne c plan columns s.columnNames.2.rows d).of_rows
        rw [hmore, List.drop_left] at hcall
        refine .inr (.inr (.inl ⟨call, ?_, hasked call hcall, hreported⟩))
        rw [calls_scan hrows (hmore.trans (by rw [hmade, List.append_assoc]))]
        exact List.mem_append_left _ (List.mem_append_right _ hcall)
    · rw [hfilled] at hanswer
      obtain ⟨rows₁, hstores, hagain⟩ := fillOne_eq_ok_iff.mp hfilled
      exact .inr (.inr (.inr ⟨d₁, rows₁, rows₂, ⟨columns, plan, hmapped, hstores⟩, hagain,
        hanswer.symm.trans h⟩))
  · obtain ⟨e', hplan, hcause⟩ := planFor_of_unmapped hsingle
      fun columns plan h => hmapped ⟨columns, plan, h⟩
    obtain ⟨hanswer, -, hrows⟩ := scan_of_unplanned hfresh hopen hplan
    cases h.symm.trans hanswer
    rcases hcause with hnot | ⟨hunread, hcolumns⟩
    · exact absurd (hnot.symm.trans hcounts) nofun
    · refine .inr (.inr (.inl ⟨.columns (.error e), ?_, rfl, rfl⟩))
      rw [calls_scan hrows (calls_columnNames hunread), hcolumns]
      exact List.mem_cons_self

/-- Behind a row that is stored and stands alone, the close is among the calls. -/
theorem close_mem_calls (hsingle : s.single = true) (hfresh : s.mode = .fresh)
    (hopen : s.closed = false) {rows₁ rows₂ : Recorded ρ} (hfirst : s.StoresFirst c d d₁ rows₁)
    (hagain : RowSource.advance rows₁ = (.ok false, rows₂)) :
    .close (RowSource.close rows₂).1 ∈ (ScannerUse.scan d).calls c s := by
  obtain ⟨-, -, hrows⟩ := scan_of_alone hsingle hfresh hopen hfirst hagain
  obtain ⟨columns, plan, -, hstores⟩ := hfirst
  obtain ⟨made, hmade, -⟩ := asks_columnNames s
  obtain ⟨more, hmore, -⟩ := hstores.asks.trans (asks_advance hagain)
  rw [calls_scan hrows (hmore.trans (by rw [hmade, List.append_assoc]))]
  exact List.mem_append_right _ List.mem_cons_self

/-- **At most two rows are asked for in a scan of a single row, and the values of at most one.** -/
theorem countP_scan (hsingle : s.single = true) (hfresh : s.mode = .fresh)
    (hopen : s.closed = false) :
    ((ScannerUse.scan d).calls c s).countP RowCall.isAdvance ≤ 2 ∧
      ((ScannerUse.scan d).calls c s).countP RowCall.isTake ≤ 1 := by
  obtain ⟨made, hmade, hcolumns⟩ := asks_columnNames s
  have hadvance : made.countP RowCall.isAdvance = 0 :=
    List.countP_eq_zero.mpr fun call hcall => by
      obtain ⟨answer, rfl⟩ := RowCall.eq_columns (hcolumns call hcall)
      exact Bool.false_ne_true
  have htake : made.countP RowCall.isTake = 0 :=
    List.countP_eq_zero.mpr fun call hcall => by
      obtain ⟨answer, rfl⟩ := RowCall.eq_columns (hcolumns call hcall)
      exact Bool.false_ne_true
  by_cases hmapped : ∃ columns plan, s.Mapped c d columns plan
  · obtain ⟨columns, plan, hmapped⟩ := hmapped
    obtain ⟨more, hmore, hadvances, htakes⟩ := calls_fillOne c plan columns s.columnNames.2.rows d
    obtain ⟨-, -, hrows⟩ := scan_of_mapped hsingle hfresh hopen hmapped
    rw [calls_scan hrows (hmore.trans (by rw [hmade, List.append_assoc]))]
    simp only [List.countP_append, hadvance, htake, List.countP_singleton, RowCall.isAdvance,
      RowCall.isTake, Bool.false_eq_true, if_false]
    omega
  · obtain ⟨e, hplan, -⟩ := planFor_of_unmapped hsingle
      fun columns plan h => hmapped ⟨columns, plan, h⟩
    obtain ⟨-, -, hrows⟩ := scan_of_unplanned hfresh hopen hplan
    rw [calls_scan hrows hmade]
    simp [hadvance, htake, RowCall.isAdvance, RowCall.isTake]

end Calls

/-- **Scanning a single row**, for every source that does not report itself that nothing was found.
That no row was found is reported exactly if the columns are mapped to the destination and the
source ends before its first row, and the destination is then as it was. That there are too many is
reported exactly if the first row is stored and there is a second, or the source reports it: before
it is closed, or when it is closed behind a first row that is stored and stands alone. The scan
succeeds exactly if the first row is stored, there is no second and the source is closed without a
fault, and then the destination is what storing that row made of it. At most two rows are asked for,
and the values of at most one. -/
theorem scan_single (c : Catalog) {s : Scanner (Recorded ρ)} (hsingle : s.single = true)
    (hfresh : s.mode = .fresh) (hopen : s.closed = false) (d : Destination)
    (hfound : ∀ call ∈ (ScannerUse.scan d).calls c s, ∀ e, call.error? = some e →
      e.isNotFound = false) :
    let scanned := scan c (s, d)
    let calls := (ScannerUse.scan d).calls c s
    ((∃ e, scanned.1 = .error e ∧ e.isNotFound = true) ↔
        (∃ columns plan, s.Mapped c d columns plan) ∧
          (RowSource.advance s.columnNames.2.rows).1 = .ok false) ∧
      ((∃ e, scanned.1 = .error e ∧ e.isNotFound = true) → scanned.2.2 = d) ∧
      (scanned.1 = .error .tooManyRows ↔
        (∃ d₁ rows₁, s.StoresFirst c d d₁ rows₁ ∧ (RowSource.advance rows₁).1 = .ok true) ∨
          (∃ call ∈ calls, call.isClose = false ∧ call.error? = some .tooManyRows) ∨
          ∃ d₁ rows₁ rows₂, s.StoresFirst c d d₁ rows₁ ∧
            RowSource.advance rows₁ = (.ok false, rows₂) ∧
            (RowSource.close rows₂).1 = .error .tooManyRows) ∧
      (∀ d₁, scanned.1 = .ok () ∧ scanned.2.2 = d₁ ↔
        ∃ rows₁ rows₂, s.StoresFirst c d d₁ rows₁ ∧
          RowSource.advance rows₁ = (.ok false, rows₂) ∧ (RowSource.close rows₂).1 = .ok ()) ∧
      calls.countP RowCall.isAdvance ≤ 2 ∧ calls.countP RowCall.isTake ≤ 1 := by
  intro scanned calls
  have hnone {e : Error} (h : scanned.1 = .error e) (he : e.isNotFound = true) :
      (∃ columns plan, s.Mapped c d columns plan) ∧
        (RowSource.advance s.columnNames.2.rows).1 = .ok false ∧ scanned.2.2 = d := by
    rcases scan_counts hsingle hfresh hopen h (Error.countsRows_of_isNotFound he) with
      ⟨-, hrest⟩ | ⟨rfl, -⟩ | ⟨call, hcall, -, hreported⟩ | ⟨_, _, _, hfirst, hagain, hclose⟩
    · exact hrest
    · cases he
    · exact absurd ((hfound call hcall e hreported).symm.trans he) nofun
    · have hcall := close_mem_calls hsingle hfresh hopen hfirst hagain
      rw [hclose] at hcall
      exact absurd ((hfound _ hcall e rfl).symm.trans he) nofun
  refine ⟨⟨?_, ?_⟩, ?_, ⟨fun h => ?_, ?_⟩, fun d₁ => scan_single_ok_iff hsingle hfresh hopen,
    countP_scan hsingle hfresh hopen⟩
  · rintro ⟨e, h, he⟩
    obtain ⟨hmapped, hends, -⟩ := hnone h he
    exact ⟨hmapped, hends⟩
  · rintro ⟨⟨columns, plan, hmapped⟩, hends⟩
    exact ⟨.notFound, scan_of_end hsingle hfresh hopen hmapped hends, rfl⟩
  · rintro ⟨e, h, he⟩
    exact (hnone h he).2.2
  · rcases scan_counts hsingle hfresh hopen h rfl with ⟨he, -⟩ | ⟨-, hcause⟩ | hcause
    · cases he
    · exact .inl hcause
    · exact .inr hcause
  · rintro (⟨d₁, rows₁, hfirst, hagain⟩ | ⟨call, hcall, hclose, hreported⟩ |
      ⟨d₁, rows₁, rows₂, hfirst, hagain, hclose⟩)
    · exact scan_of_second hsingle hfresh hopen hfirst hagain
    · exact scan_reports hsingle hfresh hopen hcall hclose hreported
    · exact (scan_of_alone hsingle hfresh hopen hfirst hagain).1.trans hclose

/-- No row, and a source that fails to close: that nothing was found is what the scan reports, and
the entry that the map had is still there. -/
theorem scan_single_of_none :
    let c := Catalog.ofDeclarations #[] fun _ name => name
    let rows : FaultyRows :=
      { rows := ⟨["id"], [], none, false⟩, faults := { close := some (.driver "broken") } }
    let kept := Destination.map [("id", .int 7)]
    let scanned := scan c (start rows {} true, kept)
    (∃ e, scanned.1 = .error e ∧ e.isNotFound = true) ∧ scanned.2.2 = kept := by
  intro c rows kept scanned
  have hcalls : (ScannerUse.scan kept).calls c (start rows {} true) =
      [.columns (.ok ["id"]), .advance (.ok false), .close (.error (.driver "broken"))] := rfl
  obtain ⟨hnone, hkept, -⟩ := scan_single c (s := start rows {} true) rfl rfl rfl kept <| by
    rw [hcalls]
    simp [RowCall.error?, Error.isNotFound]
  have h := hnone.mpr ⟨⟨["id"], .map, columnNames_eq_ok_iff.mp rfl, rfl⟩, rfl⟩
  exact ⟨h, hkept h⟩

/-- Two sources whose faults a scan passes on. The first has no rows and reports, asked for one, that
there are too many: so does the scan, though no row was stored and there is no second. The other
has a column that is mapped and one row, which would be stored, and gives both without a fault; but
it fails to say what its columns are, and so does the scan. -/
theorem scan_single_of_faults :
    let c := Catalog.ofDeclarations #[] fun _ name => name
    let d := Destination.map []
    let crowded : FaultyRows :=
      { rows := ⟨["id"], [], none, false⟩, faults := { advance := some (0, .tooManyRows) } }
    let unread : FaultyRows :=
      { rows := ⟨["id"], [[.int 1]], none, false⟩, faults := { columns := some (.driver "broken") } }
    let s := start crowded {} true
    let s' := start unread {} true
    ((s.single = true ∧ s.mode = .fresh ∧ s.closed = false) ∧
      (∀ call ∈ (ScannerUse.scan d).calls c s, ∀ e, call.error? = some e → e.isNotFound = false) ∧
      ¬ ((scan c (s, d)).1 = .error .tooManyRows ↔
        ∃ d₁ rows₁, s.StoresFirst c d d₁ rows₁ ∧ (RowSource.advance rows₁).1 = .ok true)) ∧
    ((s'.single = true ∧ s'.mode = .fresh ∧ s'.closed = false) ∧
      (∀ call ∈ (ScannerUse.scan d).calls c s', call.isColumns = false → call.error? = none) ∧
      ¬ ((scan c (s', d)).1 = .ok () ↔
        columnFault? unread.rows.columns = none ∧
          ∃ plan row d₁, RowPlan.of c {} unread.rows.columns d.shape = .ok plan ∧
            unread.rows.rows = [row] ∧ store c plan unread.rows.columns row d = (.ok (), d₁))) := by
  intro c d crowded unread s s'
  have hcalls : (ScannerUse.scan d).calls c s =
      [.columns (.ok ["id"]), .advance (.error .tooManyRows), .close (.ok ())] := rfl
  have hcalls' : (ScannerUse.scan d).calls c s' =
      [.columns (.error (.driver "broken")), .close (.ok ())] := rfl
  refine ⟨⟨⟨rfl, rfl, rfl⟩, ?_, fun h => ?_⟩, ⟨rfl, rfl, rfl⟩, ?_, fun h => ?_⟩
  · rw [hcalls]
    simp [RowCall.error?, Error.isNotFound]
  · obtain ⟨d₁, rows₁, ⟨columns, plan, -, between, values, hadvance, -⟩, -⟩ := h.mp rfl
    have hfails : (RowSource.advance s.columnNames.2.rows).1 = .error .tooManyRows := rfl
    rw [hadvance] at hfails
    cases hfails
  · rw [hcalls']
    simp [RowCall.error?, RowCall.isColumns]
  · have hscan : (scan c (s', d)).1 = .error (.driver "broken") := rfl
    have hok := h.mpr ⟨by decide, .map, [.int 1], .map [("id", .int 1)], rfl, rfl, rfl⟩
    rw [hscan] at hok
    cases hok

end Scanner

end Rowbind
