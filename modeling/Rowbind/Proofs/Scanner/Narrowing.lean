import Rowbind.Proofs.Scanner.ColumnOrder
import Rowbind.Proofs.Scanner.Source

/-!
# Passing columns over is leaving them out

Where columns without a field are passed over, a record takes from every row what the other columns
give. So the columns could as well be left out of the rows beforehand, names and values
(`RowSource.Narrows`): scanning what is left, with no column passed over, answers the same and
leaves the same (`Scanner.scan_narrowed`).

What carries this is that a column is left out together with its value and its path. The entries of
a row are then the entries that have a path (`rowEntries_kept`), and the others were never stored
(`storeRecord_filter`). It takes rows that have a value for each column (`RowSource.Wide`), since
another row is refused for the number of its values, which is not the same any more.
-/

namespace Rowbind

/-- Whether a column has a field. -/
def FieldMap.maps (m : FieldMap) (column : String) : Bool := (m.column? column).isSome

theorem FieldMap.maps_eq_true_iff {m : FieldMap} {column : String} :
    m.maps column = true ↔ m.column? column ≠ none :=
  Option.isSome_iff_ne_none

/-! ## Rows with columns left out -/

/-- **What is left of a row**, where only some columns are kept. -/
def keptValues (kept : String → Bool) (columns : List String) (row : List Value) : List Value :=
  ((columns.zip row).filter fun column => kept column.1).map Prod.snd

section Rows

variable {kept : String → Bool} {columns : List String} {row : List Value} {m : FieldMap}
  {c : Catalog} {r : Record}

/-- **A value is left out with its column**, and the others stay under theirs. -/
theorem zip_keptValues : (columns.filter kept).zip (keptValues kept columns row) =
    (columns.zip row).filter fun column => kept column.1 := by
  induction columns generalizing row with
  | nil => rfl
  | cons column columns ih =>
    cases row with
    | nil => simp [keptValues]
    | cons v row =>
      cases hkept : kept column with
      | true => simpa [keptValues, hkept] using ih
      | false => simpa [keptValues, hkept] using ih

theorem length_keptValues (h : row.length = columns.length) :
    (keptValues kept columns row).length = (columns.filter kept).length := by
  induction columns generalizing row with
  | nil => rfl
  | cons column columns ih =>
    cases row with
    | nil => cases h
    | cons v row =>
      have hrest := ih (Nat.succ.inj h)
      cases hkept : kept column with
      | true => simpa [keptValues, hkept] using hrest
      | false => simpa [keptValues, hkept] using hrest

/-- **With the columns left out that have no field, the entries of a row are those with a path.** -/
theorem rowEntries_kept : rowEntries m (columns.filter m.maps) (keptValues m.maps columns row) =
    (rowEntries m columns row).filter fun entry => entry.2.isSome := by
  rw [rowEntries, zip_keptValues, rowEntries, List.filter_map]
  rfl

/-- **Entries without a path are not stored.** The induction is on the entries. -/
theorem storeRecord_filter {target : String} {cells : List Cell} {entries : List Entry} :
    storeRecord c target cells (entries.filter fun entry => entry.2.isSome) =
      storeRecord c target cells entries := by
  induction entries generalizing cells with
  | nil => rfl
  | cons entry entries ih =>
    obtain ⟨⟨column, v⟩, _ | path⟩ := entry
    · exact ih
    · simp only [Option.isSome_some, List.filter_cons_of_pos, storeRecord, ih]

/-- **A row is stored into a record as what is left of it**, without the columns that have no
field. -/
theorem store_kept (h : row.length = columns.length) :
    store c (.record ((columns.filter m.maps).map m.column?)) (columns.filter m.maps)
        (keptValues m.maps columns row) (.record r) =
      store c (.record (columns.map m.column?)) columns row (.record r) := by
  simp only [store, length_keptValues h, h, ne_eq, not_true_eq_false, if_false, rowEntries_eq,
    rowEntries_kept, storeRecord_filter]

end Rows

/-! ## Sources with columns left out -/

/-- **Whether a source gives what is left of another's rows**, where only some columns are kept of
those that the other has. In everything else it steps as the other does. -/
structure RowSource.Narrows {ρ ρ' : Type} [RowSource ρ] [RowSource ρ'] (kept : String → Bool)
    (names : List String) (q : ρ → ρ') : Prop extends
    RowSource.Rewrites (keptValues kept names) q where
  columns : ∀ r, RowSource.columns (q r) =
    ((RowSource.columns r).1.map (List.filter kept), q (RowSource.columns r).2)
  close : ∀ r, RowSource.close (q r) = ((RowSource.close r).1, q (RowSource.close r).2)

/-- **Whether every row that a source comes to has so many values.** -/
def RowSource.Wide {ρ : Type} [RowSource ρ] (width : Nat) (rows : ρ) : Prop :=
  ∀ left values, RowSource.Reaches rows left → (RowSource.take left).1 = .ok values →
    values.length = width

section Sources

variable {ρ : Type} [RowSource ρ] {width : Nat} {rows : ρ}

theorem RowSource.Wide.of_columns {answer : Except Error (List String)} {left : ρ}
    (h : Wide width rows) (hcolumns : RowSource.columns rows = (answer, left)) :
    Wide width left := by
  refine fun last values hlast => h last values (.columns ?_)
  rw [hcolumns]
  exact hlast

/-- Reading the columns leaves a source whose rows are as wide. -/
theorem Scanner.wide_columnNames {s : Scanner ρ} (h : RowSource.Wide width s.rows) :
    RowSource.Wide width s.columnNames.2.rows := by
  have hread := readsColumns s
  generalize s.columnNames = result at hread ⊢
  cases hread with
  | known hread => exact h
  | failed hunread hcolumns => exact h.of_columns hcolumns
  | unusable hunread hcolumns hfault => exact h.of_columns hcolumns
  | read hunread hcolumns husable => exact h.of_columns hcolumns

end Sources

namespace BufferedRows

variable {kept : String → Bool} {names : List String}

/-- **Rows held in memory with only some of their columns kept.** -/
def narrowed (kept : String → Bool) (names : List String) (b : BufferedRows) : BufferedRows where
  columns := b.columns.filter kept
  rows := b.rows.map (keptValues kept names)
  current := b.current.map (keptValues kept names)
  closed := b.closed

theorem narrows : RowSource.Narrows kept names (narrowed kept names) where
  columns b := by
    obtain ⟨columns, rows, current, closed⟩ := b
    cases closed <;> rfl
  advance b := by
    obtain ⟨columns, rows, current, closed⟩ := b
    cases closed <;> cases rows <;> rfl
  take b := by
    obtain ⟨columns, rows, current, closed⟩ := b
    cases current <;> rfl
  close _ := rfl

/-- **Rows held in memory are as wide as each of them.** The induction is on how a source comes to a
row. -/
theorem wide {width : Nat} {b : BufferedRows} (hrows : ∀ row ∈ b.rows, row.length = width)
    (hcurrent : ∀ row ∈ b.current, row.length = width) : RowSource.Wide width b := by
  intro left values hleft htake
  have hnone : ∀ row ∈ (none : Option (List Value)), row.length = width := by simp
  induction hleft with
  | refl b =>
    obtain ⟨columns, rows, current, closed⟩ := b
    cases current with
    | none => cases htake
    | some row =>
      cases htake
      exact hcurrent _ rfl
  | @columns b left _ ih =>
    have hsame : (RowSource.columns b).2 = b := by
      simp only [RowSource.columns, columnNames]
      split <;> rfl
    rw [hsame] at ih
    exact ih hrows hcurrent htake
  | @advance b left _ ih =>
    obtain ⟨columns, rows, current, closed⟩ := b
    cases closed with
    | true => exact ih hrows hcurrent htake
    | false =>
      cases rows with
      | nil => exact ih hrows hnone htake
      | cons row rows =>
        obtain ⟨hrow, hrest⟩ := List.forall_mem_cons.mp hrows
        refine ih hrest ?_ htake
        rintro _ ⟨⟩
        exact hrow
  | @take b left _ ih =>
    obtain ⟨columns, rows, current, closed⟩ := b
    cases current with
    | none => exact ih hrows hcurrent htake
    | some row => exact ih hrows hnone htake

end BufferedRows

/-! ## Scanning them -/

namespace Scanner

variable {ρ ρ' : Type}

/-- **A scanner of what is left of the rows**, which passes no column over. -/
def narrowed (kept : String → Bool) (q : ρ → ρ') (s : Scanner ρ) : Scanner ρ' where
  rows := q s.rows
  options := { s.options with ignoreMissingFields := false }
  single := s.single
  mode := s.mode
  columns := s.columns.map (List.filter kept)
  hasRow := s.hasRow
  closed := s.closed

variable [RowSource ρ] [RowSource ρ'] {kept : String → Bool} {q : ρ → ρ'} {columns : List String}
  {c : Catalog} {s : Scanner ρ} {r : Record} {d : Destination}

theorem close_narrowed (h : RowSource.Narrows kept columns q) :
    (s.narrowed kept q).close = (s.close.1, s.close.2.narrowed kept q) := by
  obtain ⟨rows, options, single, mode, columns, hasRow, closed⟩ := s
  simp only [close, narrowed, h.close]
  cases closed <;> rfl

/-- **Of the columns that are kept a scanner has a list**, if there are any. -/
theorem columnNames_narrowed (h : RowSource.Narrows kept columns q)
    (hcolumns : s.HasColumns columns) (hsome : columns.filter kept ≠ []) :
    (s.narrowed kept q).columnNames =
      (.ok (columns.filter kept), s.columnNames.2.narrowed kept q) := by
  obtain ⟨rows, options, single, mode, read, hasRow, closed⟩ := s
  rcases hcolumns with hread | ⟨hunread, hgiven, hne, hnodup⟩
  · cases hread
    rfl
  · cases hunread
    have husable := columnFault?_eq_none_iff.mpr ⟨hne, hnodup⟩
    have husable' := columnFault?_eq_none_iff.mpr ⟨hsome, hnodup.filter kept⟩
    simp only [columnNames, narrowed, h.columns]
    generalize RowSource.columns rows = given at hgiven ⊢
    obtain ⟨_, rows⟩ := given
    cases hgiven
    simp only [Except.map, husable, husable']
    rfl

section Records

variable {o : Options} {m : FieldMap} (hm : FieldMap.of c r.type o.columnRule = m)
include hm

/-- The columns that have a field are all mapped. -/
theorem plan_narrowed (columns : List String) : RowPlan.of c { o with ignoreMissingFields := false }
    (columns.filter m.maps) (.record r.type) =
      .ok (.record ((columns.filter m.maps).map m.column?)) := by
  have hrule : FieldMap.of c r.type
      ({ o with ignoreMissingFields := false } : Options).columnRule = m := hm
  refine plan_record_eq_ok_iff.mpr ⟨by rw [hrule], fun _ column hmem => ?_⟩
  rw [hrule]
  exact FieldMap.maps_eq_true_iff.mp (List.mem_filter.mp hmem).2

/-- Where columns are passed over, all have a plan. -/
theorem plan_of_ignored (columns : List String) (hignore : o.ignoreMissingFields = true) :
    RowPlan.of c o columns (.record r.type) = .ok (.record (columns.map m.column?)) :=
  plan_record_eq_ok_iff.mpr ⟨by rw [hm], by simp [hignore]⟩

end Records

/-- **Scanning all rows**, some columns passed over or left out. -/
theorem scanRows_narrowed {m : FieldMap} (hm : FieldMap.of c r.type s.options.columnRule = m)
    (hignore : s.options.ignoreMissingFields = true) (hcolumns : s.HasColumns columns)
    (hsome : columns.filter m.maps ≠ []) (hwide : RowSource.Wide columns.length s.rows)
    (h : RowSource.Narrows m.maps columns q) (hd : d.IsFor r) :
    scanRows c (s.narrowed m.maps q, d) =
      ((scanRows c (s, d)).1, (scanRows c (s, d)).2.1.narrowed m.maps q,
        (scanRows c (s, d)).2.2) := by
  have hnames := columnNames_narrowed h hcolumns hsome
  have hwide := wide_columnNames hwide
  obtain ⟨rows, hread⟩ := hcolumns.columnNames_eq
  rw [hread] at hnames hwide
  have hstore (left : ρ) (values : List Value) (hleft : RowSource.Reaches rows left)
      (htake : (RowSource.take left).1 = .ok values) :=
    store_kept (m := m) (c := c) (r := r) (hwide left values hleft htake)
  have hplan := plan_of_ignored hm columns hignore
  have hplan' := plan_narrowed hm columns
  rcases hd with rfl | ⟨items, rfl⟩
  · cases hsingle : s.single with
    | false =>
      simp only [scanRows, hnames, hread]
      simp [narrowed, hsingle]
    | true =>
      rw [scanRows_one hread hsingle hplan, scanRows_one hnames hsingle hplan']
      simp only [narrowed, fillOne_rewrites h.toRewrites rows hstore]
  · cases hsingle : s.single with
    | true =>
      simp only [scanRows, hnames, hread]
      simp [narrowed, hsingle]
    | false =>
      rw [scanRows_list hread hsingle hplan, scanRows_list hnames hsingle hplan']
      simp only [narrowed, fillList_rewrites h.toRewrites rows items hstore]

/-- **Scanning with columns left out that have no field answers as passing them over does**, and
leaves the same. -/
theorem scan_narrowed {m : FieldMap} (hm : FieldMap.of c r.type s.options.columnRule = m)
    (hignore : s.options.ignoreMissingFields = true) (hcolumns : s.HasColumns columns)
    (hsome : columns.filter m.maps ≠ []) (hwide : RowSource.Wide columns.length s.rows)
    (h : RowSource.Narrows m.maps columns q) (hd : d.IsFor r) :
    scan c (s.narrowed m.maps q, d) =
      ((scan c (s, d)).1, (scan c (s, d)).2.1.narrowed m.maps q, (scan c (s, d)).2.2) := by
  cases hmode : s.mode with
  | automatic => simp only [scan, narrowed, hmode]
  | manual => simp only [scan, narrowed, hmode]
  | fresh =>
    have hscanned := scanRows_narrowed (s := { s with mode := .automatic }) hm hignore hcolumns
      hsome hwide h hd
    have hclosed := close_narrowed (s := (scanRows c ({ s with mode := .automatic }, d)).2.1) h
    simp only [narrowed] at hscanned hclosed
    simp only [scan, narrowed, hmode, hscanned, hclosed]

/-- **Passing over the columns that have no field is leaving them out.** Take columns that differ,
of which at least one has a field, and a destination for records of a type. Scan rows that have a
value for each column, with columns passed over that have no field; or leave those columns out,
their names and their values, and scan what is left with no column passed over. The answer is the
same, and so is the destination, whether rows are scanned into a list or a single one into a record,
and whether they are stored or fail. That holds of rows held in memory, and it holds of every
source, whatever fails in it, where another gives what is left of its rows. -/
theorem scan_without_unmapped (c : Catalog) (o : Options) (r : Record) (columns : List String)
    (hignore : o.ignoreMissingFields = true) (hnodup : columns.Nodup)
    (hsome : ∃ column ∈ columns, (FieldMap.of c r.type o.columnRule).column? column ≠ none)
    (d : Destination) (hd : d.IsFor r) :
    let m := FieldMap.of c r.type o.columnRule
    (∀ (rows : List (List Value)) (single : Bool), (∀ row ∈ rows, row.length = columns.length) →
      let s : Scanner BufferedRows :=
        { rows := { columns := columns, rows := rows }, options := o, single := single }
      let left : Scanner BufferedRows :=
        { rows := { columns := columns.filter m.maps, rows := rows.map (keptValues m.maps columns) }
          options := { o with ignoreMissingFields := false }
          single := single }
      (scan c (left, d)).1 = (scan c (s, d)).1 ∧ (scan c (left, d)).2.2 = (scan c (s, d)).2.2) ∧
    ∀ (ρ ρ' : Type) [RowSource ρ] [RowSource ρ'] (q : ρ → ρ') (s : Scanner ρ),
      RowSource.Narrows m.maps columns q → RowSource.Wide columns.length s.rows → s.options = o →
      s.HasColumns columns →
      scan c (s.narrowed m.maps q, d) =
        ((scan c (s, d)).1, (scan c (s, d)).2.1.narrowed m.maps q, (scan c (s, d)).2.2) := by
  intro m
  have hkept : columns.filter m.maps ≠ [] := by
    obtain ⟨column, hmem, hcolumn⟩ := hsome
    have hmaps := FieldMap.maps_eq_true_iff.mpr hcolumn
    exact List.ne_nil_of_mem (List.mem_filter.mpr ⟨hmem, hmaps⟩)
  constructor
  · intro rows single hrows s left
    have hcolumns : s.HasColumns columns :=
      .inr ⟨rfl, rfl, fun hnil => hkept (by rw [hnil]; rfl), hnodup⟩
    have hscan : scan c (left, d) = _ :=
      scan_narrowed (s := s) rfl hignore hcolumns hkept (BufferedRows.wide hrows nofun)
        BufferedRows.narrows hd
    rw [hscan]
    exact ⟨rfl, rfl⟩
  · rintro ρ ρ' _ _ q s hnarrows hwide rfl hcolumns
    exact scan_narrowed rfl hignore hcolumns hkept hwide hnarrows hd

/-- Two accounts with a flag that an account has no field for, the second with a name for its id. -/
theorem scan_without_unmapped_of_accounts :
    let o : Options := { nameMapper := .identity, ignoreMissingFields := true }
    let r := Record.new accountCatalog ⟨0⟩
    let m := FieldMap.of accountCatalog r.type o.columnRule
    let columns := ["flag", "id", "author"]
    let rows : List (List Value) :=
      [[.bool true, .int 7, .text "ann"], [.int 8, .text "bob", .text "bob"]]
    let d : Destination := .list (.record r.type) (.record r) []
    let s : Scanner BufferedRows :=
      { rows := { columns := columns, rows := rows }, options := o, single := false }
    let left : Scanner BufferedRows :=
      { rows := { columns := columns.filter m.maps, rows := rows.map (keptValues m.maps columns) }
        options := { o with ignoreMissingFields := false }
        single := false }
    m.maps "flag" = false ∧ (scan accountCatalog (left, d)).1 = (scan accountCatalog (s, d)).1 ∧
      (scan accountCatalog (left, d)).2.2 = (scan accountCatalog (s, d)).2.2 := by
  intro o r m columns rows d s left
  have hmap : m = FieldMap.build accountWalk ⟨0⟩ := rfl
  have hflag : m.maps "flag" = false := by
    have hlower : Text.lowercase "flag" = "flag" := by decide +kernel
    rw [FieldMap.maps, FieldMap.column?, hlower, hmap, path?_account]
    rfl
  have hid : m.column? "id" ≠ none := by
    have hpath : m.column? "id" = some [0] := hmap ▸ column?_account rfl
    rw [hpath]
    exact Option.some_ne_none _
  have hsame := (scan_without_unmapped accountCatalog o r columns rfl (by decide)
    ⟨"id", by decide, hid⟩ d (.inr ⟨[], rfl⟩)).1 rows false (by decide)
  with_reducible exact ⟨hflag, hsame.1, hsame.2⟩

end Scanner

end Rowbind
