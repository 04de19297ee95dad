import Rowbind.Proofs.Record.FieldPaths
import Rowbind.Proofs.Scanner.ColumnOrder

/-!
# Columns that share a field

Columns whose names differ can be mapped to one field all the same. They find it under one key, when
one of them is the name of the other in lower case or both have one; or they find it under two keys,
of which one takes the key of an embedded record on the way and the other leaves it out. There is no
third way (`FieldMap.column?_eq_iff`).

The columns of a row are stored one after the other, so of those that share a field the last one
stays. A scan that succeeds leaves in every field that a column is mapped to the value of the last
such column (`Scanner.scan_keeps_last`), and so keeps every value where no two columns share a field.
-/

namespace Rowbind

/-- The walk through a catalog's types by a rule. -/
def KeyRule.walk (rule : KeyRule) (c : Catalog) : FieldMap.Walk :=
  ⟨c.schema, rule.tag, c.rename rule.mapper, rule.separator⟩

namespace FieldMap

variable {w : Walk} {t : TypeId} {m : FieldMap} {a b column key : String} {path : Path}

/-- **Whether a column finds its field under a key**: its name, or, where that is none, its name in
lower case. -/
def FindsUnder (m : FieldMap) (column key : String) : Prop :=
  m.path? key ≠ none ∧ (key = column ∨ m.path? column = none ∧ key = Text.lowercase column)

/-- A column is mapped where the key leads under which it finds its field. -/
theorem column?_eq_some_iff :
    m.column? column = some path ↔ ∃ key, m.FindsUnder column key ∧ m.path? key = some path := by
  rw [column?]
  cases hcolumn : m.path? column with
  | some own =>
    simp only [Option.some_or, FindsUnder, hcolumn, reduceCtorEq, false_and, or_false]
    constructor
    · rintro hown
      exact ⟨column, ⟨by simp [hcolumn], rfl⟩, hcolumn.trans hown⟩
    · rintro ⟨key, ⟨-, rfl⟩, hpath⟩
      exact hcolumn.symm.trans hpath
  | none =>
    simp only [Option.none_or, FindsUnder, hcolumn, true_and]
    constructor
    · intro hpath
      exact ⟨_, ⟨by simp [hpath], .inr rfl⟩, hpath⟩
    · rintro ⟨key, ⟨hkey, rfl | rfl⟩, hpath⟩
      · exact absurd hcolumn hkey
      · exact hpath

/-- Where two columns find a field under one key, one of them is not its own key. -/
theorem FindsUnder.lowercase (ha : m.FindsUnder a key) (hb : m.FindsUnder b key) (hne : a ≠ b) :
    m.path? a = none ∧ key = Text.lowercase a ∨ m.path? b = none ∧ key = Text.lowercase b := by
  rcases ha.2 with rfl | ha
  · rcases hb.2 with rfl | hb
    · exact absurd rfl hne
    · exact .inr hb
  · exact .inl ha

/-- **Whether two columns find one field** of a type: under one key, which one of them is in lower
case only; or under two keys, along a path through an embedded record, whose own key one of the two
leaves out and the other takes. -/
inductive SharesField (w : Walk) (t : TypeId) (a b : String) : Prop
  | folded {key : String} (ha : (build w t).FindsUnder a key) (hb : (build w t).FindsUnder b key)
      (hfolded : (build w t).path? a = none ∧ key = Text.lowercase a ∨
        (build w t).path? b = none ∧ key = Text.lowercase b) : SharesField w t a b
  | embedded {key key' : String} {path : Path} (ha : (build w t).FindsUnder a key)
      (hb : (build w t).FindsUnder b key') (hne : key ≠ key')
      (hpath : (build w t).path? key = some path) (hpath' : (build w t).path? key' = some path)
      (hembedded : w.OmitsKey t path key key' ∨ w.OmitsKey t path key' key) : SharesField w t a b

/-- **When two columns are mapped to one field.** -/
theorem column?_eq_iff (hmapped : (build w t).column? a ≠ none) (hne : a ≠ b) :
    (build w t).column? a = (build w t).column? b ↔ SharesField w t a b := by
  constructor
  · intro hsame
    obtain ⟨path, hpath⟩ := Option.ne_none_iff_exists'.mp hmapped
    obtain ⟨key, ha, hkey⟩ := column?_eq_some_iff.mp hpath
    obtain ⟨key', hb, hkey'⟩ := column?_eq_some_iff.mp (hsame.symm.trans hpath)
    by_cases hkeys : key = key'
    · subst hkeys
      exact .folded ha hb (ha.lowercase hb hne)
    · exact .embedded ha hb hkeys hkey hkey' (omitsKey_of_path? hkey hkey' hkeys)
  · intro hshares
    cases hshares with
    | @folded key ha hb =>
      obtain ⟨path, hpath⟩ := Option.ne_none_iff_exists'.mp ha.1
      exact (column?_eq_some_iff.mpr ⟨key, ha, hpath⟩).trans
        (column?_eq_some_iff.mpr ⟨key, hb, hpath⟩).symm
    | embedded ha hb _ hpath hpath' =>
      exact (column?_eq_some_iff.mpr ⟨_, ha, hpath⟩).trans
        (column?_eq_some_iff.mpr ⟨_, hb, hpath'⟩).symm

end FieldMap

/-! ## What is kept of a row -/

/-- **Whether fields hold what was mapped to them last**: each column has a value, and this stands in
its field, unless a later column is mapped to the same. -/
structure FieldMap.HoldsLast (m : FieldMap) (columns : List String) (row : List Value)
    (cells : List Cell) : Prop where
  length_eq : row.length = columns.length
  holds : ∀ (i : Nat) column v path, columns[i]? = some column → row[i]? = some v →
    m.column? column = some path →
    (∀ (j : Nat) (later : String), i < j → columns[j]? = some later → m.column? later ≠ some path) →
    Holds cells path v

variable {c : Catalog} {o : Options} {columns : List String} {row : List Value} {r : Record}
  {plan : RowPlan} {d₁ : Destination}

/-- **A stored row leaves in each field what was mapped to it last.** -/
theorem store_holdsLast (hplan : RowPlan.of c o columns (.record r.type) = .ok plan)
    (h : store c plan columns row (.record r) = (.ok (), d₁)) :
    ∃ cells, d₁ = .record ⟨r.type, cells⟩ ∧
      (FieldMap.of c r.type o.columnRule).HoldsLast columns row cells := by
  obtain ⟨hlength, cells, hd₁, hstored⟩ := (store_record_eq_ok_iff hplan).mp h
  refine ⟨cells, hd₁, hlength, fun i column v path hcolumn hv hpath hlast => ?_⟩
  have hentry := getElem?_rowEntries.mpr ⟨hcolumn, hv, hpath⟩
  obtain ⟨hi, hentry⟩ := List.getElem?_eq_some_iff.mp hentry
  rw [← List.take_append_drop i (rowEntries _ columns row), List.drop_eq_getElem_cons hi,
    hentry] at hstored
  refine storeRecord_holds hstored fun later hlater => ?_
  obtain ⟨k, hk⟩ := List.mem_iff_getElem?.mp hlater
  rw [List.getElem?_drop] at hk
  obtain ⟨⟨column', v'⟩, path?⟩ := later
  obtain ⟨hcolumn', -, rfl⟩ := getElem?_rowEntries.mp hk
  exact hlast _ column' (by omega) hcolumn'

/-- **What a scan leaves of a destination for records**: of each row a record, whose fields hold what
was mapped to them last. -/
inductive KeepsLast (m : FieldMap) (columns : List String) :
    List (List Value) → Destination → Destination → Prop
  | one {row : List Value} {r : Record} {cells : List Cell} (h : m.HoldsLast columns row cells) :
    KeepsLast m columns [row] (.record r) (.record ⟨r.type, cells⟩)
  | many {rows : List (List Value)} {element : Shape} {r : Record} {items stored : List Destination}
      (h : List.Forall₂ (fun row item => ∃ cells, item = .record ⟨r.type, cells⟩ ∧
        m.HoldsLast columns row cells) rows stored) :
    KeepsLast m columns rows (.list element (.record r) items)
      (.list element (.record r) (items ++ stored))

theorem StoresRows.keepsLast {single : Bool} {rows : List (List Value)} {d : Destination}
    (h : StoresRows c o columns single rows d d₁) (hd : d.IsFor r) :
    KeepsLast (FieldMap.of c r.type o.columnRule) columns rows d d₁ := by
  cases h with
  | one hplan hstore =>
    rcases hd with rfl | ⟨items, rfl⟩
    · obtain ⟨cells, rfl, hholds⟩ := store_holdsLast hplan hstore
      exact .one hholds
    · cases hplan
  | many hplan hstores =>
    rcases hd with hd | ⟨items, hd⟩
    · cases hd
    · cases hd
      exact .many (hstores.imp fun row item hstore => store_holdsLast hplan hstore)

/-- **Columns share a field in two ways only, and the last of them stays.** Take columns that a
scanner has and that are all mapped to fields of a record type. Two of them are mapped to one field
exactly if they find it under one key, one of them in lower case only, or under two keys, of which
one leaves out the key of an embedded record. A scan of rows into records of the type that succeeds
has stored every row that the source gives, with a value for each column; and it leaves in the field
of a column its value, unless a later column is mapped to the same field. -/
theorem Scanner.scan_keeps_last {ρ : Type} [RowSource ρ] (c : Catalog) (s : Scanner ρ) (t : TypeId)
    (columns : List String) (hkeep : s.options.ignoreMissingFields = false)
    (hcolumns : s.HasColumns columns)
    (hmapped : ∃ plan, RowPlan.of c s.options columns (.record t) = .ok plan) :
    let m := FieldMap.of c t s.options.columnRule
    (∀ column ∈ columns, m.column? column ≠ none) ∧
      (∀ a ∈ columns, ∀ b ∈ columns, a ≠ b →
        (m.column? a = m.column? b ↔
          FieldMap.SharesField (s.options.columnRule.walk c) t a b)) ∧
      ∀ (r : Record) (d : Destination), r.type = t → d.IsFor r → s.mode = .fresh →
        s.closed = false → (scan c (s, d)).1 = .ok () →
        ∃ given left, RowSource.Gives s.columnNames.2.rows given left ∧
          KeepsLast m columns given d (scan c (s, d)).2.2 := by
  intro m
  obtain ⟨plan, hplan⟩ := hmapped
  have hall : ∀ column ∈ columns, m.column? column ≠ none :=
    (plan_record_eq_ok_iff.mp hplan).2 hkeep
  refine ⟨hall, fun a ha b _ hne => FieldMap.column?_eq_iff (hall a ha) hne, ?_⟩
  rintro r d rfl hd hfresh hopen hok
  obtain ⟨columns', given, left, hcolumns', hgives, -, hstores⟩ :=
    (scan_ok_iff hfresh hopen).mp ⟨hok, rfl⟩
  obtain rfl : columns' = columns := by
    have hread := columnNames_eq_ok_iff.mpr hcolumns'
    rw [columnNames_eq_ok_iff.mpr hcolumns] at hread
    exact (Except.ok.inj hread).symm
  exact ⟨given, left, hgives, hstores.keepsLast hd⟩

/-- The plan for columns that share a field. -/
theorem plan_of_shared {t : TypeId} {path : Path}
    (hpath : ∀ column ∈ columns, (FieldMap.of c t o.columnRule).column? column = some path) :
    RowPlan.of c o columns (.record t) = .ok (.record (columns.map fun _ => some path)) := by
  refine plan_record_eq_ok_iff.mpr ⟨?_, fun _ column hmem hnone => ?_⟩
  · exact congrArg RowPlan.record (List.map_congr_left fun column hmem => (hpath column hmem).symm)
  · cases (hpath column hmem).symm.trans hnone

/-- A row of columns that share a field of a new account is scanned there when it is stored. -/
theorem Scanner.scan_account (o : Options) (columns : List String) (values : List Value)
    (path : Path) {cells : List Cell} (husable : columnFault? columns = none)
    (hpath : ∀ column ∈ columns,
      (FieldMap.of accountCatalog ⟨0⟩ o.columnRule).column? column = some path)
    (hstore : store accountCatalog (.record (columns.map fun _ => some path)) columns values
      (.record (Record.new accountCatalog ⟨0⟩)) = (.ok (), .record ⟨⟨0⟩, cells⟩)) :
    ∃ s, scan accountCatalog (ofRow columns values o, .record (Record.new accountCatalog ⟨0⟩)) =
      (.ok (), (s, .record ⟨⟨0⟩, cells⟩)) :=
  scan_ofRow accountCatalog husable (plan_of_shared hpath) hstore

/-- An account's author is called with and without the key of the record that it is in, and its id
in capitals too. Where a row has both columns, a scan succeeds and the first value is lost. -/
theorem Scanner.columns_overwritten :
    let o : Options := { nameMapper := .identity }
    let m := FieldMap.of accountCatalog ⟨0⟩ o.columnRule
    let r := Record.new accountCatalog ⟨0⟩
    o.ignoreMissingFields = false ∧
      (columnFault? ["author", "audit_author"] = none ∧
        m.column? "author" = m.column? "audit_author" ∧
        ∃ s r', scan accountCatalog
            (ofRow ["author", "audit_author"] [.text "ann", .text "bob"] o, .record r) =
          (.ok (), (s, .record r')) ∧ fieldAt r'.cells [1, 0] = some (.value (.text "bob"))) ∧
      columnFault? ["id", "ID"] = none ∧ m.column? "id" = m.column? "ID" ∧
      ∃ s r', scan accountCatalog (ofRow ["id", "ID"] [.int 1, .int 2] o, .record r) =
        (.ok (), (s, .record r')) ∧ fieldAt r'.cells [0] = some (.value (.int 2)) := by
  intro o m r
  have hauthor : m.column? "author" = some [1, 0] := column?_account rfl
  have haudit : m.column? "audit_author" = some [1, 0] := column?_account rfl
  have hid : m.column? "id" = some [0] := column?_account rfl
  have hcapital : m.column? "ID" = some [0] := by
    have hlower : Text.lowercase "ID" = "id" := by decide
    show (FieldMap.build accountWalk ⟨0⟩).column? "ID" = some [0]
    rw [FieldMap.column?, path?_account, hlower, path?_account]
    decide
  obtain ⟨s, hauthors⟩ := scan_account o ["author", "audit_author"] [.text "ann", .text "bob"] [1, 0]
    (by decide) (List.forall_mem_cons.mpr ⟨hauthor, List.forall_mem_singleton.mpr haudit⟩) rfl
  obtain ⟨s', hids⟩ := scan_account o ["id", "ID"] [.int 1, .int 2] [0] (by decide)
    (List.forall_mem_cons.mpr ⟨hid, List.forall_mem_singleton.mpr hcapital⟩) rfl
  exact ⟨rfl, ⟨by decide, hauthor.trans haudit.symm, s, _, hauthors, rfl⟩, by decide,
    hid.trans hcapital.symm, s', _, hids, rfl⟩

/-- An account's author, under both of its keys: the embedded record is why they share it, and the
later column is the one that stays. -/
theorem Scanner.scan_keeps_last_of_account :
    let o : Options := { nameMapper := .identity }
    FieldMap.SharesField (o.columnRule.walk accountCatalog) ⟨0⟩ "author" "audit_author" ∧
      ∃ cells, (scan accountCatalog (ofRow ["author", "audit_author"] [.text "ann", .text "bob"] o,
          .record (Record.new accountCatalog ⟨0⟩))).2.2 = .record ⟨⟨0⟩, cells⟩ ∧
        Holds cells [1, 0] (.text "bob") := by
  intro o
  have hauthor : (FieldMap.of accountCatalog ⟨0⟩ o.columnRule).column? "author" = some [1, 0] :=
    column?_account rfl
  have haudit : (FieldMap.of accountCatalog ⟨0⟩ o.columnRule).column? "audit_author" =
      some [1, 0] := column?_account rfl
  have hpaths : ∀ column ∈ ["author", "audit_author"],
      (FieldMap.of accountCatalog ⟨0⟩ o.columnRule).column? column = some [1, 0] :=
    List.forall_mem_cons.mpr ⟨hauthor, List.forall_mem_singleton.mpr haudit⟩
  obtain ⟨s, hscan⟩ := scan_account o ["author", "audit_author"] [.text "ann", .text "bob"] [1, 0]
    (by decide) hpaths rfl
  have hplan : RowPlan.of accountCatalog o ["author", "audit_author"] (.record ⟨0⟩) =
      .ok (.record [some [1, 0], some [1, 0]]) := plan_of_shared hpaths
  obtain ⟨-, hshares, hkeeps⟩ := Scanner.scan_keeps_last accountCatalog
    (ofRow ["author", "audit_author"] [.text "ann", .text "bob"] o) ⟨0⟩ ["author", "audit_author"]
    rfl (.inr ⟨rfl, rfl, by decide, by decide⟩) ⟨_, hplan⟩
  refine ⟨(hshares _ (by decide) _ (by decide) (by decide)).mp (hauthor.trans haudit.symm), ?_⟩
  obtain ⟨given, left, hgives, hkept⟩ := hkeeps (Record.new accountCatalog ⟨0⟩) _ rfl (.inl rfl) rfl
    rfl (congrArg Prod.fst hscan)
  obtain ⟨rfl, -⟩ := BufferedRows.gives_iff.mp hgives
  rw [hscan] at hkept ⊢
  cases hkept with
  | one hlast =>
    refine ⟨_, rfl, hlast.holds 1 "audit_author" (.text "bob") [1, 0] rfl rfl haudit ?_⟩
    intro j later hj hlater
    have hshort := (List.getElem?_eq_some_iff.mp hlater).1
    simp only [List.length_cons, List.length_nil] at hshort
    omega

end Rowbind
