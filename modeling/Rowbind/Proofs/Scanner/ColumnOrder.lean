import Mathlib.Data.Fin.VecNotation
import Mathlib.Data.List.FinRange
import Mathlib.Logic.Equiv.Basic
import Rowbind.Proofs.Scanner.ReadingBack
import Rowbind.Proofs.Scanner.StoredRow
import Rowbind.Proofs.Scanner.Success

/-!
# The order of columns does not matter

Rows can be given with their columns in another order, the values of every row in the same order
again. Whether the columns are usable, and whether there is a plan, does not hang on the order; and
where the columns are mapped to fields of their own, nor does what a row leaves of a record. So a
scan into records comes to the same in every order (`Scanner.scan_reordered`).
-/

namespace Rowbind

/-- **A scanner of rows held in memory**, which have a value for each of so many columns. -/
def Scanner.ofColumns {n : Nat} (columns : Fin n → String) (rows : List (Fin n → Value))
    (o : Options) (single : Bool) : Scanner BufferedRows where
  rows := { columns := List.ofFn columns, rows := rows.map List.ofFn }
  options := o
  single := single

variable {c : Catalog} {o : Options} {n : Nat} {columns : Fin n → String} {r : Record}
  {m : FieldMap}

/-- **Whether columns are mapped to fields of their own**, those that are not mapped left aside. -/
def FieldMap.Apart (m : FieldMap) (columns : Fin n → String) : Prop :=
  ∀ i j path, m.column? (columns i) = some path → m.column? (columns j) = some path → i = j

theorem rowEntries_ofFn (m : FieldMap) (columns : Fin n → String) (row : Fin n → Value) :
    rowEntries m (List.ofFn columns) (List.ofFn row) =
      List.ofFn fun i => ((columns i, row i), m.column? (columns i)) := by
  apply List.ext_getElem
  · simp [rowEntries]
  · intro i _ _
    simp [rowEntries]

/-- Columns that are mapped to fields of their own have paths that differ. -/
theorem FieldMap.Apart.nodup (h : m.Apart columns) (row : Fin n → Value) :
    ((rowEntries m (List.ofFn columns) (List.ofFn row)).filterMap Prod.snd).Nodup := by
  rw [rowEntries_ofFn, List.ofFn_eq_map, List.filterMap_map]
  exact (List.nodup_finRange n).filterMap fun i j path hi hj => h i j path hi hj

theorem FieldMap.Apart.comp (h : m.Apart columns) (σ : Equiv.Perm (Fin n)) :
    m.Apart (columns ∘ σ) :=
  fun i j path hi hj => σ.injective (h (σ i) (σ j) path hi hj)

/-- Whether there is a plan does not hang on the order of the columns. -/
theorem exists_plan_comp (σ : Equiv.Perm (Fin n)) {t : TypeId} {plan : RowPlan}
    (h : RowPlan.of c o (List.ofFn columns) (.record t) = .ok plan) :
    ∃ plan', RowPlan.of c o (List.ofFn (columns ∘ σ)) (.record t) = .ok plan' := by
  obtain ⟨-, hmapped⟩ := plan_record_eq_ok_iff.mp h
  refine ⟨_, plan_record_eq_ok_iff.mpr ⟨rfl, fun hkeep column hcolumn => ?_⟩⟩
  exact hmapped hkeep column ((σ.ofFn_comp_perm columns).mem_iff.mp hcolumn)

/-- **A row is stored in every order of the columns as in one**, where these are mapped to fields of
their own. -/
theorem store_comp (σ : Equiv.Perm (Fin n)) {row : Fin n → Value} {plan plan' : RowPlan}
    {d₁ : Destination} (hapart : (FieldMap.of c r.type o.columnRule).Apart columns)
    (hplan : RowPlan.of c o (List.ofFn columns) (.record r.type) = .ok plan)
    (hplan' : RowPlan.of c o (List.ofFn (columns ∘ σ)) (.record r.type) = .ok plan')
    (h : store c plan (List.ofFn columns) (List.ofFn row) (.record r) = (.ok (), d₁)) :
    store c plan' (List.ofFn (columns ∘ σ)) (List.ofFn (row ∘ σ)) (.record r) = (.ok (), d₁) := by
  obtain ⟨-, cells', hd₁, hstored⟩ := (store_record_eq_ok_iff hplan).mp h
  refine (store_record_eq_ok_iff hplan').mpr ⟨by simp, cells', hd₁, ?_⟩
  refine storeRecord_perm ?_ (hapart.nodup row) hstored
  rw [rowEntries_ofFn, rowEntries_ofFn]
  exact (σ.ofFn_comp_perm _).symm

/-- Destinations for records like one: itself, or a list of such. -/
def Destination.IsFor (r : Record) (d : Destination) : Prop :=
  d = .record r ∨ ∃ items, d = .list (.record r.type) (.record r) items

/-- **Rows are stored in every order of the columns as in one.** -/
theorem StoresRows.comp {rows : List (Fin n → Value)} {single : Bool} {d d₁ : Destination}
    (h : StoresRows c o (List.ofFn columns) single (rows.map List.ofFn) d d₁) (hd : d.IsFor r)
    (hapart : (FieldMap.of c r.type o.columnRule).Apart columns) (σ : Equiv.Perm (Fin n)) :
    StoresRows c o (List.ofFn (columns ∘ σ)) single ((rows.map (· ∘ σ)).map List.ofFn) d d₁ := by
  generalize hrows : rows.map List.ofFn = given at h
  cases h with
  | one hplan hstore =>
    obtain ⟨row, rfl, rfl⟩ := List.map_eq_singleton_iff.mp hrows
    rcases hd with rfl | ⟨items, rfl⟩
    · obtain ⟨plan', hplan'⟩ := exists_plan_comp σ hplan
      exact .one hplan' (store_comp σ hapart hplan hplan' hstore)
    · cases hplan
  | many hplan hstores =>
    rcases hd with hd | ⟨items, hd⟩
    · cases hd
    · cases hd
      obtain ⟨plan', hplan'⟩ := exists_plan_comp σ hplan
      refine .many hplan' ?_
      rw [← hrows, List.forall₂_map_left_iff] at hstores
      rw [List.map_map, List.forall₂_map_left_iff]
      exact hstores.imp fun row item hstore => store_comp σ hapart hplan hplan' hstore

theorem Scanner.scan_ofColumns_ok_iff {rows : List (Fin n → Value)} {single : Bool}
    {d d₁ : Destination} :
    (scan c (ofColumns columns rows o single, d)).1 = .ok () ∧
        (scan c (ofColumns columns rows o single, d)).2.2 = d₁ ↔
      List.ofFn columns ≠ [] ∧ (List.ofFn columns).Nodup ∧
        StoresRows c o (List.ofFn columns) single (rows.map List.ofFn) d d₁ :=
  scan_inMemory_ok_iff

/-- A scan that succeeds does so in every order of the columns, and leaves the same. -/
theorem Scanner.scan_comp {rows : List (Fin n → Value)} {single : Bool} {d d₁ : Destination}
    (hd : d.IsFor r) (hapart : (FieldMap.of c r.type o.columnRule).Apart columns)
    (σ : Equiv.Perm (Fin n))
    (h : (scan c (ofColumns columns rows o single, d)).1 = .ok () ∧
      (scan c (ofColumns columns rows o single, d)).2.2 = d₁) :
    (scan c (ofColumns (columns ∘ σ) (rows.map (· ∘ σ)) o single, d)).1 = .ok () ∧
      (scan c (ofColumns (columns ∘ σ) (rows.map (· ∘ σ)) o single, d)).2.2 = d₁ := by
  obtain ⟨hsome, hnodup, hstores⟩ := scan_ofColumns_ok_iff.mp h
  have hperm := σ.ofFn_comp_perm columns
  have hsome' : List.ofFn (columns ∘ σ) ≠ [] := fun hnil => hsome (hnil ▸ hperm).symm.eq_nil
  exact scan_ofColumns_ok_iff.mpr
    ⟨hsome', hperm.nodup_iff.mpr hnodup, hstores.comp hd hapart σ⟩

/-- **A scan into records comes to the same in every order of the columns.** Take rows that have a
value for each column, and columns that are mapped to fields of their own, or to none. With the
columns and the values of every row in another order, a scan succeeds exactly if it does without,
and what it leaves is then the same: the record, with every optional record that was set on the way,
or the list of records. -/
theorem Scanner.scan_reordered (c : Catalog) (o : Options) {n : Nat} (columns : Fin n → String)
    (rows : List (Fin n → Value)) (σ : Equiv.Perm (Fin n)) (single : Bool) (r : Record)
    (hapart : (FieldMap.of c r.type o.columnRule).Apart columns) (d : Destination)
    (hd : d.IsFor r) :
    let s := Scanner.ofColumns columns rows o single
    let reordered := Scanner.ofColumns (columns ∘ σ) (rows.map (· ∘ σ)) o single
    ((scan c (reordered, d)).1 = .ok () ↔ (scan c (s, d)).1 = .ok ()) ∧
      ((scan c (s, d)).1 = .ok () → (scan c (reordered, d)).2.2 = (scan c (s, d)).2.2) := by
  intro s reordered
  refine ⟨⟨fun h => ?_, fun h => (scan_comp hd hapart σ ⟨h, rfl⟩).1⟩,
    fun h => (scan_comp hd hapart σ ⟨h, rfl⟩).2⟩
  -- the other order is undone by the order that leads back
  have hcancel {α : Type} (f : Fin n → α) : (f ∘ σ) ∘ σ.symm = f := by
    funext i
    simp
  have hrows : (rows.map (· ∘ σ)).map (· ∘ σ.symm) = rows := by
    simp [Function.comp_def]
  have hback := scan_comp hd (hapart.comp σ) σ.symm ⟨h, rfl⟩
  rw [hcancel, hrows] at hback
  exact hback.1

/-- An account's id, author and home, from first to last and from last to first. The home, which a
new account has not, is set either way. -/
theorem Scanner.scan_reordered_of_account :
    let o : Options := { nameMapper := .identity }
    let r := Record.new accountCatalog ⟨0⟩
    let columns : Fin 3 → String := !["id", "author", "home_lat"]
    let row : Fin 3 → Value := ![.int 7, .text "ann", .float ⟨0x3FF0000000000000⟩]
    let σ : Equiv.Perm (Fin 3) := Equiv.swap 0 2
    fieldAt r.cells [2, 0] = some .absent ∧
      ∃ r', (scan accountCatalog (ofColumns columns [row] o true, .record r)).1 = .ok () ∧
        (scan accountCatalog (ofColumns columns [row] o true, .record r)).2.2 = .record r' ∧
        (scan accountCatalog
          (ofColumns (columns ∘ σ) ([row].map (· ∘ σ)) o true, .record r)).1 = .ok () ∧
        (scan accountCatalog
          (ofColumns (columns ∘ σ) ([row].map (· ∘ σ)) o true, .record r)).2.2 = .record r' ∧
        fieldAt r'.cells [2, 0] = some (.value (.float ⟨0x3FF0000000000000⟩)) := by
  intro o r columns row σ
  let paths : Fin 3 → Path := ![[0], [1, 0], [2, 0]]
  have hcolumn (i : Fin 3) : (FieldMap.of accountCatalog r.type o.columnRule).column? (columns i) =
      some (paths i) :=
    match i with
    | 0 | 1 | 2 => column?_account rfl
  have hdiffer : ∀ i j, paths i = paths j → i = j := by decide
  have hapart : (FieldMap.of accountCatalog r.type o.columnRule).Apart columns := by
    intro i j path hi hj
    rw [hcolumn, Option.some_inj] at hi hj
    exact hdiffer i j (hi.trans hj.symm)
  have hplan : RowPlan.of accountCatalog o (List.ofFn columns) (.record r.type) =
      .ok (.record ((List.ofFn columns).map
        (FieldMap.of accountCatalog r.type o.columnRule).column?)) := by
    refine plan_record_eq_ok_iff.mpr ⟨rfl, fun _ column hmem => ?_⟩
    obtain ⟨i, rfl⟩ := List.mem_ofFn.mp hmem
    simp [hcolumn]
  have hentries : rowEntries (FieldMap.of accountCatalog r.type o.columnRule) (List.ofFn columns)
      (List.ofFn row) = List.ofFn fun i => ((columns i, row i), some (paths i)) := by
    simp only [rowEntries_ofFn, hcolumn]
  let cells : List Cell := [.scalar ⟨.int ⟨true, .w64⟩, ⟨7, by decide⟩⟩,
    .record [.scalar ⟨.optional .text, some "ann"⟩], .record [.scalar ⟨.binary32, ⟨0x3F800000⟩⟩],
    .hidden .null]
  have hstored : storeRecord accountCatalog (accountCatalog.typeName r.type) r.cells
      (List.ofFn fun i => ((columns i, row i), some (paths i))) = (.ok (), cells) := by
    rfl
  rw [← hentries] at hstored
  have hstore := (store_record_eq_ok_iff hplan).mpr ⟨rfl, cells, rfl, hstored⟩
  have hstores : StoresRows accountCatalog o (List.ofFn columns) true ([row].map List.ofFn)
      (.record r) (.record ⟨r.type, cells⟩) := .one hplan hstore
  have hcolumns : List.ofFn columns ≠ [] ∧ (List.ofFn columns).Nodup := by decide
  obtain ⟨hok, hleft⟩ := scan_ofColumns_ok_iff.mpr ⟨hcolumns.1, hcolumns.2, hstores⟩
  obtain ⟨hiff, hsame⟩ :=
    Scanner.scan_reordered accountCatalog o columns [row] σ true r hapart (.record r) (.inl rfl)
  exact ⟨rfl, ⟨r.type, cells⟩, hok, hleft, hiff.mpr hok, (hsame hok).trans hleft, rfl⟩

end Rowbind
