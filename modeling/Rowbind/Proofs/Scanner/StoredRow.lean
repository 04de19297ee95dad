import Rowbind.Proofs.Record.Stores
import Rowbind.Proofs.Scanner.Planning

/-!
# What a stored row leaves of a record

The values of a row are stored into a record one after the other, those of columns without a path
being passed over. After that, each field holds the value of the last column that was mapped to it
(`storeRecord_holds`).

Where no two columns are mapped to one field, the values can be stored in any order, and leave the
same record (`storeRecord_perm`): two of them can be stored the other way round, and every order is
made of such exchanges.
-/

namespace Rowbind

/-- A column with its value, and its path if it is not passed over. -/
abbrev Entry := (String × Value) × Option Path

variable {c : Catalog} {target : String} {cells cells' : List Cell} {entries entries' : List Entry}
  {path : Path} {v : Value}

/-- **The first column of a row is stored, then the rest.** -/
theorem storeRecord_cons_eq_ok_iff {first : String × Value} :
    storeRecord c target cells ((first, some path) :: entries) = (.ok (), cells') ↔
      ∃ cells₁, StoresAt c first.2 cells path cells₁ ∧
        storeRecord c target cells₁ entries = (.ok (), cells') := by
  rw [storeRecord]
  constructor
  · intro h
    split at h
    · exact ⟨_, scanAt_eq_ok_iff.mp ‹_›, h⟩
    · cases h
    · cases h
  · rintro ⟨cells₁, hstores, h⟩
    simp only [scanAt_eq_ok_iff.mpr hstores]
    exact h

/-- A value stays where it stands, if no column of a row is mapped there. -/
theorem storeRecord_keeps (h : storeRecord c target cells entries = (.ok (), cells'))
    (hholds : Holds cells path v) (hnot : ∀ entry ∈ entries, entry.2 ≠ some path) :
    Holds cells' path v := by
  induction entries generalizing cells with
  | nil =>
    cases h
    exact hholds
  | cons entry entries ih =>
    obtain ⟨hfirst, hrest⟩ := List.forall_mem_cons.mp hnot
    obtain ⟨first, _ | other⟩ := entry
    · exact ih h hholds hrest
    · obtain ⟨cells₁, hstores, h⟩ := storeRecord_cons_eq_ok_iff.mp h
      exact ih h (hstores.keeps (fun heq => hfirst (congrArg some heq.symm)) hholds) hrest

/-- **A field holds the value of the last column that is mapped to it.** -/
theorem storeRecord_holds {before : List Entry} {column : String × Value}
    (h : storeRecord c target cells (before ++ (column, some path) :: entries) = (.ok (), cells'))
    (hlast : ∀ entry ∈ entries, entry.2 ≠ some path) : Holds cells' path column.2 := by
  induction before generalizing cells with
  | nil =>
    obtain ⟨cells₁, hstores, h⟩ := storeRecord_cons_eq_ok_iff.mp h
    exact storeRecord_keeps h hstores.holds hlast
  | cons entry before ih =>
    obtain ⟨first, _ | other⟩ := entry
    · exact ih h
    · obtain ⟨cells₁, -, h⟩ := storeRecord_cons_eq_ok_iff.mp h
      exact ih h

/-- **Columns that are mapped to fields of their own can be stored in any order**, and leave the same
record. The induction is on how one order is made of the other. -/
theorem storeRecord_perm (hperm : entries.Perm entries')
    (hpaths : (entries.filterMap Prod.snd).Nodup)
    (h : storeRecord c target cells entries = (.ok (), cells')) :
    storeRecord c target cells entries' = (.ok (), cells') := by
  induction hperm generalizing cells with
  | nil => exact h
  | cons entry _ ih =>
    obtain ⟨first, _ | path⟩ := entry
    · exact ih hpaths h
    · obtain ⟨cells₁, hstores, h⟩ := storeRecord_cons_eq_ok_iff.mp h
      exact storeRecord_cons_eq_ok_iff.mpr ⟨cells₁, hstores, ih (List.nodup_cons.mp hpaths).2 h⟩
  | swap entry entry' _ =>
    obtain ⟨first, _ | path⟩ := entry
    · obtain ⟨first', _ | path'⟩ := entry'
      · exact h
      · exact h
    · obtain ⟨first', _ | path'⟩ := entry'
      · exact h
      · obtain ⟨cells₁, hsecond, h⟩ := storeRecord_cons_eq_ok_iff.mp h
        obtain ⟨cells₂, hfirst, h⟩ := storeRecord_cons_eq_ok_iff.mp h
        have hne : path' ≠ path := by
          rintro rfl
          exact (List.nodup_cons.mp hpaths).1 List.mem_cons_self
        obtain ⟨cells₃, hfirst, hsecond⟩ := hsecond.swap hfirst hne
        exact storeRecord_cons_eq_ok_iff.mpr
          ⟨cells₃, hfirst, storeRecord_cons_eq_ok_iff.mpr ⟨cells₂, hsecond, h⟩⟩
  | trans hfirst _ ih ih' => exact ih' ((hfirst.filterMap _).nodup_iff.mp hpaths) (ih hpaths h)

/-! ## Rows -/

variable {o : Options} {columns : List String} {row : List Value} {r : Record} {plan : RowPlan}
  {d₁ : Destination}

/-- The columns of a row with their values and paths. -/
def rowEntries (m : FieldMap) (columns : List String) (row : List Value) : List Entry :=
  (columns.zip row).map fun column => (column, m.column? column.1)

theorem rowEntries_eq (m : FieldMap) (columns : List String) (row : List Value) :
    (columns.zip row).zip (columns.map m.column?) = rowEntries m columns row := by
  induction columns generalizing row with
  | nil => simp [rowEntries]
  | cons column columns ih =>
    cases row with
    | nil => simp [rowEntries]
    | cons v row => simpa [rowEntries] using ih row

theorem getElem?_rowEntries {m : FieldMap} {i : Nat} {column : String} {path? : Option Path} :
    (rowEntries m columns row)[i]? = some ((column, v), path?) ↔
      columns[i]? = some column ∧ row[i]? = some v ∧ m.column? column = path? := by
  simp only [rowEntries, List.getElem?_map, Option.map_eq_some_iff, List.getElem?_zip_eq_some,
    Prod.mk.injEq]
  grind

/-- **A row is stored into a record** when it has a value for each column, and these are stored. -/
theorem store_record_eq_ok_iff (hplan : RowPlan.of c o columns (.record r.type) = .ok plan) :
    store c plan columns row (.record r) = (.ok (), d₁) ↔
      row.length = columns.length ∧ ∃ cells', d₁ = .record ⟨r.type, cells'⟩ ∧
        storeRecord c (c.typeName r.type) r.cells
          (rowEntries (FieldMap.of c r.type o.columnRule) columns row) = (.ok (), cells') := by
  obtain ⟨rfl, -⟩ := plan_record_eq_ok_iff.mp hplan
  rw [store, rowEntries_eq]
  by_cases hlength : row.length = columns.length
  · simp only [hlength, ne_eq, not_true_eq_false, if_false, true_and]
    rcases storeRecord c (c.typeName r.type) r.cells
      (rowEntries (FieldMap.of c r.type o.columnRule) columns row) with ⟨e | _, cells'⟩
    · simp
    · simp [eq_comm]
  · simp [hlength]

end Rowbind
