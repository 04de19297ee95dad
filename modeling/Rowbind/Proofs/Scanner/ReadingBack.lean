import Rowbind.Proofs.Record.Storing
import Rowbind.Proofs.Scanner.Closing

/-!
# Scanning what a record reads

A record can be written down as a row, a column for each key of its field map, and the row scanned
into a new record of the type: it then reads the same at every path of the map
(`Record.scan_back`).

The columns are stored one after the other, and several may lead along one path. What carries the
run is that each value comes from the one record: a column that is stored later leaves what is read
elsewhere, and where it leads along the same path, it stores the same value again
(`storeRecord_of_read`).
-/

namespace Rowbind

/-! ## Columns -/

/-- Columns that differ are usable, if there are any. -/
theorem columnFault?_eq_none {columns : List String} (hsome : columns ≠ [])
    (hnodup : columns.Nodup) : columnFault? columns = none :=
  columnFault?_eq_none_iff.mpr ⟨hsome, hnodup⟩

namespace FieldMap

/-- The keys of a field map. -/
def keys (m : FieldMap) : List String := m.paths.keys

theorem nodup_keys (m : FieldMap) : m.keys.Nodup := Std.HashMap.nodup_keys

theorem mem_keys {m : FieldMap} {key : String} : key ∈ m.keys ↔ m.path? key ≠ none := by
  rw [keys, Std.HashMap.mem_keys, Std.HashMap.mem_iff_isSome_getElem?, Option.isSome_iff_ne_none,
    path?]

/-- **Whether a record reads a value under a key.** -/
def Reads (m : FieldMap) (cells : List Cell) (key : String) (v : Value) : Prop :=
  ∃ path, m.path? key = some path ∧ fieldAt cells path = some (.value v)

/-- Where every key's field is there, a row of values can be read. -/
theorem exists_row {m : FieldMap} {cells : List Cell} {columns : List String}
    (h : ∀ column ∈ columns, ∃ v, m.Reads cells column v) :
    ∃ values, List.Forall₂ (m.Reads cells) columns values := by
  induction columns with
  | nil => exact ⟨[], .nil⟩
  | cons column columns ih =>
    obtain ⟨v, hv⟩ := h column List.mem_cons_self
    obtain ⟨values, hvalues⟩ := ih fun other hother => h other (List.mem_cons_of_mem column hother)
    exact ⟨v :: values, .cons hv hvalues⟩

end FieldMap

/-! ## Storing a row -/

/-- A column with its value and its path, all read from one record. -/
def ReadFrom (source : List Cell) (e : (String × Value) × Option Path) : Prop :=
  ∃ path, e.2 = some path ∧ fieldAt source path = some (.value e.1.2)

/-- The columns that a record reads have the paths of their keys. -/
theorem columnPaths_of_reads {m : FieldMap} {source : List Cell} {columns : List String}
    {values : List Value} (h : List.Forall₂ (m.Reads source) columns values)
    (ignoreMissing : Bool) (target : String) :
    ∃ paths, columnPaths m ignoreMissing target columns = .ok paths ∧
      (∀ e ∈ (columns.zip values).zip paths, ReadFrom source e) ∧
      ∀ column ∈ columns, ∀ path, m.path? column = some path →
        ∃ e ∈ (columns.zip values).zip paths, e.2 = some path := by
  induction h with
  | nil => exact ⟨[], rfl, nofun, nofun⟩
  | @cons column v columns values hread _ ih =>
    obtain ⟨paths, hpaths, hfrom, hall⟩ := ih
    obtain ⟨path, hpath, hvalue⟩ := hread
    have hcolumn : m.column? column = some path := by rw [FieldMap.column?, hpath, Option.some_or]
    refine ⟨some path :: paths, ?_, ?_, ?_⟩
    · simp only [columnPaths, hcolumn, hpaths]
      rfl
    · intro e he
      rcases List.mem_cons.mp he with rfl | he
      · exact ⟨path, rfl, hvalue⟩
      · exact hfrom e he
    · intro other hother path' hpath'
      rcases List.mem_cons.mp hother with rfl | hother
      · exact ⟨_, List.mem_cons_self, hpath.symm.trans hpath'⟩
      · obtain ⟨e, he, heq⟩ := hall other hother path' hpath'
        exact ⟨e, List.mem_cons_of_mem _ he, heq⟩

/-- **Columns that a record reads are taken by every record of its type.** What was stored, and what
agreed before, then reads as it does there. -/
theorem storeRecord_of_read {c : Catalog} {declared : TypeId → Declaration}
    (hc : c.Declares declared) {t : TypeId} {source cells : List Cell}
    (hfaithful : Faithful declared t) (hsource : CellsFit declared source (declared t).fields)
    (hcells : CellsFit declared cells (declared t).fields) (target : String)
    {row : List ((String × Value) × Option Path)} (hrow : ∀ e ∈ row, ReadFrom source e) :
    ∃ cells', storeRecord c target cells row = (.ok (), cells') ∧
      ∀ path v, fieldAt source path = some (.value v) →
        fieldAt cells path = some (.value v) ∨ (∃ e ∈ row, e.2 = some path) →
        fieldAt cells' path = some (.value v) := by
  induction row generalizing cells with
  | nil =>
    refine ⟨cells, rfl, fun path v _ hagrees => ?_⟩
    rcases hagrees with hagrees | ⟨e, he, -⟩
    · exact hagrees
    · exact absurd he List.not_mem_nil
  | cons e row ih =>
    obtain ⟨first, hfirst, hread⟩ := hrow e List.mem_cons_self
    obtain ⟨⟨column, v⟩, path?⟩ := e
    obtain rfl : path? = some first := hfirst
    obtain ⟨cells₁, hscan, hfits, hstored⟩ :=
      scanAt_of_read hc hfaithful hsource hcells hread
    obtain ⟨cells', hstore, hagree⟩ := ih hfits fun e he => hrow e (List.mem_cons_of_mem _ he)
    refine ⟨cells', ?_, fun path u hu hagrees => hagree path u hu ?_⟩
    · rw [storeRecord, hscan]
      exact hstore
    · by_cases hsame : path = first
      · -- the column's own path: the record it was read from has one value there
        subst hsame
        rw [hread] at hu
        exact .inl (hstored.trans hu)
      · rcases hagrees with hagrees | ⟨e, he, heq⟩
        · left
          have hkept := fieldAt_scanAt_of_ne (c := c) (v := v) hagrees hsame
          rwa [hscan] at hkept
        · rcases List.mem_cons.mp he with rfl | he
          · exact absurd (Option.some.inj heq).symm hsame
          · exact .inr ⟨e, he, heq⟩

/-! ## Scanning it -/

/-- A scanner of one row, held in memory. -/
def Scanner.ofRow (columns : List String) (values : List Value) (o : Options) :
    Scanner BufferedRows where
  rows := { columns := columns, rows := [values] }
  options := o
  single := true

/-- One row that is stored is scanned. -/
theorem Scanner.scan_ofRow (c : Catalog) {columns : List String} {values : List Value}
    {o : Options} {plan : RowPlan} {r r' : Record} (hcolumns : columnFault? columns = none)
    (hplan : RowPlan.of c o columns (.record r.type) = .ok plan)
    (hstore : store c plan columns values (.record r) = (.ok (), .record r')) :
    ∃ s, Scanner.scan c (Scanner.ofRow columns values o, .record r) =
      (.ok (), (s, .record r')) := by
  have hnames : columnNames { ofRow columns values o with mode := .automatic } =
      (.ok columns,
        { ofRow columns values o with mode := .automatic, columns := some columns }) := by
    simp [columnNames, ofRow, RowSource.columns, BufferedRows.columnNames, hcolumns]
  have hrow : ∃ rows, fillOne c plan columns
      ({ columns := columns, rows := [values] } : BufferedRows) (.record r) =
        (.ok (), rows, .record r') := by
    simp [fillOne, RowSource.advance, BufferedRows.advance, RowSource.take, BufferedRows.take,
      hstore]
  obtain ⟨rows, hrow⟩ := hrow
  rw [scan_of_fresh c rfl]
  simp only [scanRows, hnames, Destination.shape]
  simp [ofRow, hplan, hrow, close, RowSource.close, BufferedRows.close]

/-- **What a record reads is scanned back.** Take any record that fits its type, in which every
optional record on the paths of the type's field map is set; and the row that has a column for each
key, in any order, with the value that the record reads under it. There is such a row; a new record
of the type takes it, without fail; and it then reads the same as the record at every path of the
map. -/
theorem Record.scan_back (c : Catalog) (declared : TypeId → Declaration) (hc : c.Declares declared)
    (r : Record) (hr : r.Fits declared) (hfaithful : Faithful declared r.type) (o : Options)
    (columns : List String) (hsome : columns ≠ [])
    (hcolumns : columns.Perm (FieldMap.of c r.type o.columnRule).keys)
    (hset : ∀ key path, (FieldMap.of c r.type o.columnRule).path? key = some path →
      fieldAt r.cells path ≠ some .absent) :
    ∃ values, List.Forall₂ ((FieldMap.of c r.type o.columnRule).Reads r.cells) columns values ∧
      ∃ s r', Scanner.scan c (Scanner.ofRow columns values o, .record (Record.new c r.type)) =
          (.ok (), (s, .record r')) ∧ r'.type = r.type ∧
        ∀ key path, (FieldMap.of c r.type o.columnRule).path? key = some path →
          fieldAt r'.cells path = fieldAt r.cells path := by
  have hvalue : ∀ key path, (FieldMap.of c r.type o.columnRule).path? key = some path →
      ∃ v, fieldAt r.cells path = some (.value v) := by
    intro key path hpath
    exact (FieldMap.read_or_absent hc hfaithful hr hpath).resolve_left (hset key path hpath)
  have hreads : ∀ column ∈ columns,
      ∃ v, (FieldMap.of c r.type o.columnRule).Reads r.cells column v := by
    intro column hcolumn
    have hkey := FieldMap.mem_keys.mp (hcolumns.mem_iff.mp hcolumn)
    obtain ⟨path, hpath⟩ := Option.ne_none_iff_exists'.mp hkey
    obtain ⟨v, hv⟩ := hvalue column path hpath
    exact ⟨v, path, hpath, hv⟩
  obtain ⟨values, hvalues⟩ := FieldMap.exists_row hreads
  obtain ⟨paths, hpaths, hfrom, hall⟩ :=
    columnPaths_of_reads hvalues o.ignoreMissingFields (c.typeName r.type)
  obtain ⟨cells', hstore, hagree⟩ := storeRecord_of_read hc hfaithful hr
    (hc.fresh r.type r.cells hr) (c.typeName r.type) hfrom
  have hplan : RowPlan.of c o columns (.record (Record.new c r.type).type) =
      .ok (.record paths) := by
    simp [RowPlan.of, Record.new, hpaths, Except.map]
  have hrow : store c (.record paths) columns values (.record (Record.new c r.type)) =
      (.ok (), .record ⟨r.type, cells'⟩) := by
    simp [store, hvalues.length_eq, Record.new, hstore]
  obtain ⟨s, hscan⟩ := Scanner.scan_ofRow c
    (columnFault?_eq_none hsome (hcolumns.nodup_iff.mpr (FieldMap.nodup_keys _))) hplan hrow
  refine ⟨values, hvalues, s, ⟨r.type, cells'⟩, hscan, rfl, fun key path hpath => ?_⟩
  obtain ⟨v, hv⟩ := hvalue key path hpath
  have hkey : key ∈ columns := by
    rw [hcolumns.mem_iff, FieldMap.mem_keys, hpath]
    exact Option.some_ne_none path
  rw [hv]
  exact hagree path v hv (.inr (hall key hkey path hpath))

/-- An account with an audit note, embedded, and an optional home. -/
def accountTypes : Array Declaration :=
  #[⟨"Account", [⟨"id", [], .scalar (.int ⟨true, .w64⟩)⟩,
      ⟨"audit", [], .record ⟨1⟩ true false false⟩, ⟨"home", [], .record ⟨2⟩ false true false⟩,
      ⟨"token", [], .skip⟩]⟩,
    ⟨"Audit", [⟨"by", [("db", "author")], .scalar (.optional .text)⟩]⟩,
    ⟨"Address", [⟨"lat", [], .scalar .binary32⟩]⟩]

/-- An account whose home is set. -/
def account : Record where
  type := ⟨0⟩
  cells := [.scalar ⟨.int ⟨true, .w64⟩, ⟨7, by decide⟩⟩, .record [.scalar ⟨.optional .text, none⟩],
    .record [.scalar ⟨.binary32, ⟨0x3F800000⟩⟩], .hidden .null]

/-- What a program declares that has accounts. -/
def accountCatalog : Catalog := Catalog.ofDeclarations accountTypes fun _ name => name

/-- The walk through an account's fields, called by their own names. -/
def accountWalk : FieldMap.Walk :=
  ⟨accountCatalog.schema, "db", accountCatalog.rename .identity, "_"⟩

/-- The keys of an account, with their paths. -/
theorem entries_accountWalk : accountWalk.entries maxDepth [⟨⟨0⟩, [], ""⟩] =
    [("id", [0]), ("author", [1, 0]), ("audit_author", [1, 0]), ("home_lat", [2, 0])] := by
  decide +kernel

theorem path?_account (key : String) : (FieldMap.build accountWalk ⟨0⟩).path? key =
    [("id", [0]), ("author", [1, 0]), ("audit_author", [1, 0]), ("home_lat", [2, 0])].lookup key := by
  rw [FieldMap.path?_eq_lookup, entries_accountWalk]

/-- A column that an account's key names has the path of the key. -/
theorem column?_account {column : String} {path : Path}
    (h : [("id", [0]), ("author", [1, 0]), ("audit_author", [1, 0]), ("home_lat", [2, 0])].lookup
      column = some path) : (FieldMap.build accountWalk ⟨0⟩).column? column = some path := by
  rw [FieldMap.column?, path?_account, h, Option.some_or]

/-- An account scanned back: its author under both of its keys, and its home, which a new account
has not. -/
theorem Record.scan_back_of_account :
    let o : Options := { nameMapper := .identity }
    let columns := ["home_lat", "audit_author", "id", "author"]
    ∃ values s r', List.Forall₂
        ((FieldMap.of accountCatalog ⟨0⟩ o.columnRule).Reads account.cells) columns values ∧
      Scanner.scan accountCatalog
          (Scanner.ofRow columns values o, .record (Record.new accountCatalog ⟨0⟩)) =
        (.ok (), (s, .record r')) ∧
      fieldAt (Record.new accountCatalog ⟨0⟩).cells [2, 0] = some .absent ∧
      fieldAt r'.cells [2, 0] = some (.value (.float ⟨0x3FF0000000000000⟩)) := by
  intro o columns
  have hmap : FieldMap.of accountCatalog account.type o.columnRule =
      FieldMap.build accountWalk ⟨0⟩ := rfl
  have hkeys : columns.Perm (FieldMap.of accountCatalog account.type o.columnRule).keys := by
    refine (List.perm_ext_iff_of_nodup (by decide) (FieldMap.nodup_keys _)).mpr fun key => ?_
    rw [FieldMap.mem_keys, hmap, FieldMap.path?_ne_none_iff, entries_accountWalk]
    simp only [columns, List.map_cons, List.map_nil, List.mem_cons, List.not_mem_nil]
    grind
  have hset : ∀ key path, (FieldMap.of accountCatalog account.type o.columnRule).path? key =
      some path → fieldAt account.cells path ≠ some .absent := by
    intro key path h
    rw [hmap] at h
    have hmem := FieldMap.mem_entries_of_path? h
    rw [entries_accountWalk] at hmem
    simp only [List.mem_cons, Prod.mk.injEq, List.not_mem_nil, or_false] at hmem
    rcases hmem with ⟨-, rfl⟩ | ⟨-, rfl⟩ | ⟨-, rfl⟩ | ⟨-, rfl⟩ <;> intro habsent <;> cases habsent
  have hhome : (FieldMap.of accountCatalog account.type o.columnRule).path? "home_lat" =
      some [2, 0] := by
    rw [hmap, FieldMap.path?_eq_lookup, entries_accountWalk]
    decide
  obtain ⟨values, hvalues, s, r', hscan, -, hread⟩ :=
    Record.scan_back accountCatalog (declaredBy accountTypes)
      (Catalog.ofDeclarations_declares accountTypes _) account
      ⟨rfl, ⟨rfl, trivial⟩, ⟨rfl, trivial⟩, trivial, trivial⟩
      (faithful_of_declarations (by decide) _) o columns (by decide) hkeys hset
  refine ⟨values, s, r', hvalues, hscan, rfl, ?_⟩
  rw [hread "home_lat" [2, 0] hhome]
  rfl

end Rowbind
