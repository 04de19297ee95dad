import Rowbind.Proofs.Scanner.ByHand
import Rowbind.Proofs.Scanner.SingleRow

/-!
# When a scan succeeds, and with what

A scan succeeds when the scanner has a column list, there is a plan for the destination, the source
gives its rows to the end (`RowSource.Gives`) and closes, and every row is stored: the only one into
the destination, or each of them into a new element of a list (`StoresRows`). That is all that a
scan comes to, for every source (`Scanner.scan_ok_iff`); rows held in memory are given as they are
(`BufferedRows.gives_iff`).
-/

namespace Rowbind

/-- **The rows that a source gives**, from first to last, and what is left of it behind them. -/
inductive RowSource.Gives {ρ : Type} [RowSource ρ] : ρ → List (List Value) → ρ → Prop
  | nil {rows left : ρ} (hend : RowSource.advance rows = (.ok false, left)) : Gives rows [] left
  | cons {rows between rest left : ρ} {row : List Value} {more : List (List Value)}
      (hadvance : RowSource.advance rows = (.ok true, between))
      (htake : RowSource.take between = (.ok row, rest)) (h : Gives rest more left) :
    Gives rows (row :: more) left

/-- **What storing rows leaves of a destination**: a single row is stored into it, and of several
each is stored into a new element of a list, behind those that are there. -/
inductive StoresRows (c : Catalog) (o : Options) (columns : List String) :
    Bool → List (List Value) → Destination → Destination → Prop
  | one {plan : RowPlan} {row : List Value} {d d₁ : Destination}
      (hplan : RowPlan.of c o columns d.shape = .ok plan)
      (hstore : store c plan columns row d = (.ok (), d₁)) :
    StoresRows c o columns true [row] d d₁
  | many {plan : RowPlan} {rows : List (List Value)} {element : Shape} {fresh : Destination}
      {items stored : List Destination} (hplan : RowPlan.of c o columns element = .ok plan)
      (hstores : List.Forall₂ (fun row item => store c plan columns row fresh = (.ok (), item))
        rows stored) :
    StoresRows c o columns false rows (.list element fresh items)
      (.list element fresh (items ++ stored))

namespace Scanner

variable {ρ : Type} [RowSource ρ] {c : Catalog} {plan : RowPlan} {columns : List String}
  {fresh : Destination} {rows left : ρ} {items items' : List Destination}

/-- **A list is filled when every row that the source gives is stored.** The induction is on the
rows taken. -/
theorem fillList_eq_ok_iff :
    fillList c plan columns fresh rows items = (.ok (), left, items') ↔
      ∃ given stored, RowSource.Gives rows given left ∧
        List.Forall₂ (fun row item => store c plan columns row fresh = (.ok (), item))
          given stored ∧ items' = items ++ stored := by
  constructor
  · intro h
    fun_induction fillList c plan columns fresh rows items with
    | case1 => cases h
    | case2 rows items rows₁ ha =>
      cases h
      exact ⟨[], [], .nil ha, .nil, (List.append_nil _).symm⟩
    | case3 => cases h
    | case4 => cases h
    | case5 rows items rows₁ ha values rows₂ ht item hs ih =>
      obtain ⟨given, stored, hgives, hstores, rfl⟩ := ih h
      exact ⟨values :: given, item :: stored, .cons ha ht hgives, .cons hs hstores, by simp⟩
  · rintro ⟨given, stored, hgives, hstores, rfl⟩
    induction hgives generalizing items stored with
    | nil hend =>
      cases hstores
      rw [fillList_eq, hend]
      simp
    | cons hadvance htake _ ih =>
      cases hstores with
      | cons hstore hstores =>
        rw [fillList_eq, hadvance]
        simp only [htake, hstore]
        rw [ih _ hstores, List.append_assoc, List.singleton_append]

variable {s : Scanner ρ} {d d₁ : Destination}

/-- A scan that succeeds has a plan. -/
theorem exists_planFor (h : (scan c (s, d)).1 = .ok ()) : ∃ plan, s.planFor c d = .ok plan := by
  by_contra hnone
  obtain ⟨e, he⟩ := scan_fails_of_unplanned (s := s) (d := d) c
    fun _ plan hplan => hnone ⟨plan, hplan⟩
  cases h.symm.trans he

/-- What a scan of many rows settles before it turns to them. -/
theorem planFor_many (hmany : s.single = false) (h : s.planFor c d = .ok plan) :
    ∃ columns element fresh items, d = .list element fresh items ∧ s.HasColumns columns ∧
      RowPlan.of c s.options columns element = .ok plan := by
  unfold planFor at h
  cases hread : s.columnNames.1 with
  | error e => simp [hread] at h
  | ok columns =>
    have hcolumns := columnNames_eq_ok_iff.mp hread
    cases d with
    | list element fresh items =>
      simp only [hread, hmany, Bool.false_eq_true, if_false] at h
      exact ⟨columns, element, fresh, items, rfl, hcolumns, h⟩
    | _ => simp [hread, hmany] at h

/-- **A scan of many rows succeeds when the list is filled** and the source closes. -/
theorem scan_many_ok_iff {element : Shape} (hfresh : s.mode = .fresh) (hopen : s.closed = false)
    (hmany : s.single = false) (hcolumns : s.HasColumns columns)
    (hplan : RowPlan.of c s.options columns element = .ok plan) :
    (scan c (s, .list element fresh items)).1 = .ok () ∧
        (scan c (s, .list element fresh items)).2.2 = d₁ ↔
      ∃ left items', fillList c plan columns fresh s.columnNames.2.rows items =
          (.ok (), left, items') ∧
        (RowSource.close left).1 = .ok () ∧ d₁ = .list element fresh items' := by
  obtain ⟨rows, hread⟩ := hcolumns.columnNames_eq
  have hread' : ({ s with mode := .automatic } : Scanner ρ).columnNames =
      (.ok columns, { s with mode := .automatic, rows := rows, columns := some columns }) := by
    rw [columnNames_mode, hread]
  obtain ⟨hanswer, hd, -⟩ :=
    scan_of_scanRows hfresh (scanRows_list hread' hmany hplan items) hopen
  rw [hanswer, hd, hread]
  rcases fillList c plan columns fresh rows items with ⟨e | _, left, items'⟩
  · simp [Except.bind]
  · simp only [Except.bind, Prod.mk.injEq, true_and]
    constructor
    · rintro ⟨hclose, rfl⟩
      exact ⟨left, items', ⟨rfl, rfl⟩, hclose, rfl⟩
    · rintro ⟨_, _, ⟨rfl, rfl⟩, hclose, rfl⟩
      exact ⟨hclose, rfl⟩

/-- **When a scan succeeds, and with what.** -/
theorem scan_ok_iff (hfresh : s.mode = .fresh) (hopen : s.closed = false) :
    (scan c (s, d)).1 = .ok () ∧ (scan c (s, d)).2.2 = d₁ ↔
      ∃ columns given left, s.HasColumns columns ∧
        RowSource.Gives s.columnNames.2.rows given left ∧ (RowSource.close left).1 = .ok () ∧
        StoresRows c s.options columns s.single given d d₁ := by
  cases hsingle : s.single with
  | true =>
    rw [scan_single_ok_iff hsingle hfresh hopen]
    constructor
    · rintro ⟨rows₁, left, ⟨columns, plan, hmapped, between, row, hadvance, htake, hstore⟩, hend,
        hclose⟩
      exact ⟨columns, [row], left, hmapped.hasColumns, .cons hadvance htake (.nil hend), hclose,
        .one hmapped.plan_eq hstore⟩
    · rintro ⟨columns, given, left, hcolumns, hgives, hclose, ⟨hplan, hstore⟩⟩
      cases hgives with
      | cons hadvance htake hgives =>
        cases hgives with
        | nil hend =>
          exact ⟨_, _, ⟨columns, _, ⟨hcolumns, hplan⟩, _, _, hadvance, htake, hstore⟩, hend, hclose⟩
  | false =>
    constructor
    · intro h
      obtain ⟨plan, hplan⟩ := exists_planFor h.1
      obtain ⟨columns, element, fresh, items, rfl, hcolumns, hplan⟩ := planFor_many hsingle hplan
      obtain ⟨left, items', hfilled, hclose, rfl⟩ :=
        (scan_many_ok_iff hfresh hopen hsingle hcolumns hplan).mp h
      obtain ⟨given, stored, hgives, hstores, rfl⟩ := fillList_eq_ok_iff.mp hfilled
      exact ⟨columns, given, left, hcolumns, hgives, hclose, .many hplan hstores⟩
    · rintro ⟨columns, given, left, hcolumns, hgives, hclose, hstores⟩
      cases hstores with
      | many hplan hstores =>
        refine (scan_many_ok_iff hfresh hopen hsingle hcolumns hplan).mpr ?_
        exact ⟨left, _, fillList_eq_ok_iff.mpr ⟨given, _, hgives, hstores, rfl⟩, hclose, rfl⟩

end Scanner

/-! ## Rows held in memory -/

/-- **Rows held in memory are given as they are.** The induction is on the rows. -/
theorem BufferedRows.gives_iff {columns : List String} {rows given : List (List Value)}
    {current : Option (List Value)} {left : BufferedRows} :
    RowSource.Gives ({ columns := columns, rows := rows, current := current } : BufferedRows)
        given left ↔
      given = rows ∧ left = { columns := columns, rows := [] } := by
  induction rows generalizing given current with
  | nil =>
    constructor
    · intro h
      cases h with
      | nil hend =>
        simp only [RowSource.advance, advance] at hend
        cases hend
        exact ⟨rfl, rfl⟩
      | cons hadvance =>
        simp only [RowSource.advance, advance] at hadvance
        cases hadvance
    · rintro ⟨rfl, rfl⟩
      exact .nil rfl
  | cons row rows ih =>
    constructor
    · intro h
      cases h with
      | nil hend =>
        simp only [RowSource.advance, advance] at hend
        cases hend
      | cons hadvance htake h =>
        cases hadvance
        cases htake
        obtain ⟨rfl, rfl⟩ := ih.mp h
        exact ⟨rfl, rfl⟩
    · rintro ⟨rfl, rfl⟩
      exact .cons rfl rfl (ih.mpr ⟨rfl, rfl⟩)

/-- **When a scan of rows held in memory succeeds**: there are columns, no two of them have one
name, and the rows are stored. -/
theorem Scanner.scan_inMemory_ok_iff {c : Catalog} {o : Options} {columns : List String}
    {rows : List (List Value)} {single : Bool} {d d₁ : Destination} :
    let s : Scanner BufferedRows :=
      { rows := { columns := columns, rows := rows }, options := o, single := single }
    (scan c (s, d)).1 = .ok () ∧ (scan c (s, d)).2.2 = d₁ ↔
      columns ≠ [] ∧ columns.Nodup ∧ StoresRows c o columns single rows d d₁ := by
  intro s
  have hcolumns (names : List String) :
      s.HasColumns names ↔ names = columns ∧ columns ≠ [] ∧ columns.Nodup := by
    simp only [HasColumns, s, RowSource.columns, BufferedRows.columnNames]
    grind
  have hrows : s.columnNames.2.rows = { columns := columns, rows := rows } := by
    simp only [columnNames, s, RowSource.columns, BufferedRows.columnNames, Bool.false_eq_true,
      if_false]
    split <;> rfl
  rw [scan_ok_iff rfl rfl, hrows]
  constructor
  · rintro ⟨names, given, left, hnames, hgives, -, hstores⟩
    obtain ⟨rfl, hsome, hnodup⟩ := (hcolumns names).mp hnames
    obtain ⟨rfl, -⟩ := BufferedRows.gives_iff.mp hgives
    exact ⟨hsome, hnodup, hstores⟩
  · rintro ⟨hsome, hnodup, hstores⟩
    exact ⟨columns, rows, _, (hcolumns columns).mpr ⟨rfl, hsome, hnodup⟩,
      BufferedRows.gives_iff.mpr ⟨rfl, rfl⟩, rfl, hstores⟩

end Rowbind
